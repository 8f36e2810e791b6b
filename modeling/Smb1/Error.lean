import Smb1.Status
import Smb1.Transaction.Kind
import Smb1.Text.Hex

/-! What can go wrong, by cause. Each kind of error has the causes the library itself raises and
`other`, for a text that a caller's own network or storage brings along. -/
namespace Smb1

inductive ParseFault
  | unknownCommand (code : UInt8)
  | missingProtocol
  | bufferFormat (format : UInt8)
  | dialectFormat (format : UInt8)
  | loneSurrogate
  | notifySetup (count : Nat)
  | truncatedChange
  | unknownAction (code : UInt32)
  | shortReferral
  | malformedReferral
  | referralVersion (version : UInt16)
  | other (text : String)
  deriving DecidableEq, Repr

inductive CryptoFault
  | keyLength
  | signature (command : Command)
  | other (text : String)
  deriving DecidableEq, Repr

inductive PreconditionFault
  | doesNotFit (size capacity : Nat)
  | patchOutside (position length : Nat)
  | notTransaction (command : Command)
  | emptyMessage
  | emptyRequest
  | unsignable (length offset available : Nat)
  | oversizedTransaction (kind : Transaction.Kind) (parameters data : Nat)
  | noFrames
  | referralTooLarge
  | referralVersion (version : UInt16)
  | cachePoisoned
  | notShare (path : String)
  | frameTooLong (length : Nat)
  | noTemplate
  | signingUnsupported
  | signingDisabled
  | notNegotiated
  | other (text : String)
  deriving DecidableEq, Repr

inductive IoFault
  | endOfStream
  | refused
  | other (text : String)
  deriving DecidableEq, Repr

inductive ResponseFault
  | failed (command : Command) (status : UInt32)
  | other (text : String)
  deriving DecidableEq, Repr

inductive ProtocolFault
  | sliceOverflow
  | noTemplate
  | unexpectedLink (code : UInt8) (expected : Command)
  | unexpectedCommand (received expected : Command)
  | readDataOutside (length offset : Nat)
  | writeDataOutside
  | payloadOutside (count offset length : Nat)
  | noResponseRoom
  | noRequestRoom (size : Nat)
  | frameAfterCompletion
  | fragmentOutside (part : Transaction.Section) (start stop total : Nat)
  | fragmentOverlap (part : Transaction.Section) (start stop : Nat)
  | misalignedChange (offset : UInt32)
  | packetType (type : UInt8)
  | unexpectedMid (received expected : UInt16)
  | noCommonDialect
  | answerMissing (answer : String)
  | other (text : String)
  deriving DecidableEq, Repr

/-- A number beyond the fixed-width words that the protocol counts in. -/
inductive RangeFault
  /-- A time after the last that a file time can show. -/
  | fileTime (millis : Int)
  /-- A time at the end of its range, which cannot be moved by the hour of daylight saving. -/
  | daylight (millis : Int)
  | position (stop : Nat)
  /-- Bytes from `start` up to `stop` of a buffer that does not have them. -/
  | slice (start stop length : Nat)
  /-- A copy of bytes to a place for another number of them. -/
  | copy (count room : Nat)
  /-- A consumed path whose characters cannot be doubled in the width of a word. -/
  | pathConsumed (characters : Nat)
  /-- A lifetime that ends after the clock does. -/
  | lifetime (seconds : Nat)
  deriving DecidableEq, Repr

inductive Error
  | parse (fault : ParseFault)
  | crypto (fault : CryptoFault)
  | precondition (fault : PreconditionFault)
  | io (fault : IoFault)
  | response (fault : ResponseFault)
  | tooSmall (expected actual : Nat)
  | server (text : String)
  | protocol (fault : ProtocolFault)
  | auth (status : Status)
  | outOfRange (fault : RangeFault)
  deriving DecidableEq, Repr

def ParseFault.text : ParseFault → String
  | .unknownCommand code => "Unknown SMB command code " ++ Text.hex .upper 2 code.toNat
  | .missingProtocol => "Missing SMB1 protocol identifier"
  | .bufferFormat format => "Invalid buffer format " ++ Text.hex .upper 2 format.toNat
  | .dialectFormat format => "Invalid dialect buffer format " ++ Text.hex .upper 2 format.toNat
  | .loneSurrogate => "invalid utf-16: lone surrogate found"
  | .notifySetup count => s!"notify change needs 4 setup words, got {count}"
  | .truncatedChange => "Truncated FILE_NOTIFY_INFORMATION"
  | .unknownAction code => s!"Unknown notify action {code.toNat}"
  | .shortReferral => "DFS referral response too short"
  | .malformedReferral => "Malformed DFS referral entry"
  | .referralVersion version => s!"Unsupported DFS referral version {version.toNat}"
  | .other text => text

def CryptoFault.text : CryptoFault → String
  | .keyLength => "Invalid key length"
  | .signature command => s!"signature verification failed for {command.name} response"
  | .other text => text

def PreconditionFault.text : PreconditionFault → String
  | .doesNotFit size capacity =>
    s!"message of {size} bytes does not fit in a {capacity} byte buffer"
  | .patchOutside position length => s!"patch at {position} past end of message {length}"
  | .notTransaction command => s!"{command.name} is not a transaction"
  | .emptyMessage => "message has no body"
  | .emptyRequest => "request has no body"
  | .unsignable length offset available =>
    s!"cannot sign {length} bytes at {offset} in a {available} byte buffer"
  | .oversizedTransaction kind parameters data =>
    s!"{kind.name} cannot carry {parameters} parameter and {data} data bytes"
  | .noFrames => "transaction produced no frames"
  | .referralTooLarge => "DFS referral too large"
  | .referralVersion version => s!"Unsupported DFS referral version {version.toNat}"
  | .cachePoisoned => "DFS cache lock poisoned"
  | .notShare path => s!"{path} does not name a server and share"
  | .frameTooLong length => s!"{length} byte message exceeds the NetBIOS session limit"
  | .noTemplate => "no response template for an unbatched link"
  | .signingUnsupported => "signing is required but the server does not support it"
  | .signingDisabled => "the server requires signing but it is disabled"
  | .notNegotiated => "negotiate before session setup"
  | .other text => text

def IoFault.text : IoFault → String
  | .endOfStream => "failed to fill whole buffer"
  | .refused => "failed to write whole buffer"
  | .other text => text

def ResponseFault.text : ResponseFault → String
  | .failed command status =>
    let code := Text.hex .lower 8 status.toNat
    s!"{command.name} failed with status {code} ({(Status.ofCode status).name})"
  | .other text => text

def ProtocolFault.text : ProtocolFault → String
  | .sliceOverflow => "slice length overflows"
  | .noTemplate => "no andx command supplied with response"
  | .unexpectedLink code expected =>
    let found := Text.hex .upper 2 code.toNat
    s!"andx command {found} does not match expected {expected.name}"
  | .unexpectedCommand received expected =>
    s!"received {received.name} while expecting {expected.name}"
  | .readDataOutside length offset =>
    s!"ReadAndX data of {length} bytes at {offset} lies outside the message"
  | .writeDataOutside => "WriteAndX data lies outside the message"
  | .payloadOutside count offset length =>
    s!"transaction payload of {count} bytes at offset {offset} exceeds the {length} byte message"
  | .noResponseRoom => "response buffer leaves no room for transaction payload"
  | .noRequestRoom size => s!"buffer of {size} bytes leaves no room for transaction payload"
  | .frameAfterCompletion => "transaction frame received after completion"
  | .fragmentOutside part start stop total =>
    s!"{part.name} fragment {start}..{stop} exceeds total of {total} bytes"
  | .fragmentOverlap part start stop =>
    s!"{part.name} fragment {start}..{stop} overlaps bytes already received"
  | .misalignedChange offset => s!"notify record offset {offset.toNat} is not 4-byte aligned"
  | .packetType type => "unexpected NetBIOS session packet type " ++ Text.hex .lower 2 type.toNat
  | .unexpectedMid received expected =>
    s!"response carries mid {received.toNat} while waiting for {expected.toNat}"
  | .noCommonDialect => "server accepted none of the offered dialects"
  | .answerMissing answer => s!"{answer} response missing"
  | .other text => text

def RangeFault.text : RangeFault → String
  | .fileTime millis => s!"no file time shows {millis} milliseconds"
  | .daylight millis => s!"no daylight saving for {millis} milliseconds"
  | .position stop => s!"{stop} is not a position"
  | .slice start stop length => s!"no bytes from {start} up to {stop} in a buffer of {length}"
  | .copy count room => s!"{count} bytes do not fit a place for {room}"
  | .pathConsumed characters => s!"a consumed path of {characters} characters cannot be doubled"
  | .lifetime seconds => s!"no clock shows an end after {seconds} seconds"

namespace Error

def message : Error → String
  | .parse fault => "Parse failed with error: " ++ fault.text
  | .crypto fault => "Crypto operation failed with error: " ++ fault.text
  | .precondition fault => "Operation failed with unmet precondition: " ++ fault.text
  | .io fault => "SMB I/O operation failed with error: " ++ fault.text
  | .response fault => "SMB response handling failed with: " ++ fault.text
  | .tooSmall expected actual => s!"Expected {expected} bytes, was actually {actual} bytes"
  | .server text => "Server returned error: " ++ text
  | .protocol fault => "SMB protocol violation: " ++ fault.text
  | .auth status => "Authentication failed with status: " ++ status.name
  | .outOfRange fault => "Number out of range: " ++ fault.text

/-- Rejected credentials are the only network errors a path lookup may surface. -/
def isAuth : Error → Bool
  | .auth _ => true
  | _ => false

def isProtocol : Error → Bool
  | .protocol _ => true
  | _ => false

def isOutOfRange : Error → Bool
  | .outOfRange _ => true
  | _ => false

end Error

end Smb1
