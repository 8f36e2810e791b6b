import Smb1.Setup.Capability
import Smb1.Wire.Encoder
import Smb1.Wire.Reader

/-! The choice of a dialect. The response comes in two forms: with a challenge and the server's
names, or, under extended security, with the server's identity and a security blob. -/
namespace Smb1

open Wire

structure NegotiateRequest where
  dialects : List String
  deriving DecidableEq, Repr

namespace NegotiateRequest

def ntLanman : String := "NT LM 0.12"

def standard : NegotiateRequest := ⟨[ntLanman]⟩

def dialectFormat : UInt8 := 0x02

def words (_ : NegotiateRequest) : Encoder := ∅

open Encoder in
def bytes (b : NegotiateRequest) : Encoder :=
  concat (b.dialects.map fun dialect => u8 dialectFormat ++ oemString dialect)

/-- The dialects up to `limit`. Each takes a byte at least, so `count` bytes hold at most `count`. -/
def dialectsUpTo (limit : Nat) : (count : Nat) → Decoder (List String)
  | 0 => pure []
  | count + 1 => do
    if (← Decoder.position) < limit then
      let format ← Decoder.u8
      if format ≠ dialectFormat then Decoder.fail (.parse (.dialectFormat format))
      let dialect ← Decoder.oemString limit
      return dialect :: (← dialectsUpTo limit count)
    else pure []

def readWords (b : NegotiateRequest) (_ : UInt8) : Decoder NegotiateRequest := pure b

def readBytes (_ : NegotiateRequest) (byteCount : Nat) : Decoder NegotiateRequest := do
  let limit ← Decoder.ahead byteCount
  return ⟨← dialectsUpTo limit byteCount⟩

end NegotiateRequest

structure NegotiateResponse where
  dialectIndex : UInt16
  securityMode : SecurityMode
  maxMpxCount : UInt16
  maxNumberVcs : UInt16
  maxBufferSize : UInt32
  maxRawSize : UInt32
  sessionKey : UInt32
  capabilities : Capabilities
  systemTime : Int
  serverTimeZone : Int16
  challenge : Bytes
  domainName : String
  serverName : String
  serverGuid : Octets 16
  securityBlob : Bytes
  /-- How long a challenge the parameter words announce. -/
  challengeLength : UInt8
  deriving DecidableEq, Repr

namespace NegotiateResponse

def offer (dialectIndex : UInt16) (securityMode : SecurityMode) (capabilities : Capabilities)
    (maxBufferSize : UInt32) (challenge : Bytes) : NegotiateResponse where
  dialectIndex
  securityMode
  maxMpxCount := 50
  maxNumberVcs := 1
  maxBufferSize
  maxRawSize := 65536
  sessionKey := 0
  capabilities
  systemTime := 0
  serverTimeZone := 0
  challenge
  domainName := ""
  serverName := ""
  serverGuid := Octets.zero 16
  securityBlob := []
  challengeLength := UInt8.ofNat challenge.length

def blank : NegotiateResponse := offer 0 ⟨0⟩ ⟨0⟩ 0 []

def isExtendedSecurity (b : NegotiateResponse) : Bool :=
  b.capabilities.contains Capabilities.extendedSecurity

def signingEnabled (b : NegotiateResponse) : Bool :=
  b.securityMode.intersects (SecurityMode.signaturesEnabled ||| SecurityMode.signaturesRequired)

open Encoder in
def words (b : NegotiateResponse) : Encoder :=
  u16 b.dialectIndex ++ u8 b.securityMode.bits ++ u16 b.maxMpxCount ++ u16 b.maxNumberVcs ++
    u32 b.maxBufferSize ++ u32 b.maxRawSize ++ u32 b.sessionKey ++ u32 b.capabilities.bits ++
    fileTime b.systemTime ++ u16 b.serverTimeZone.toUInt16 ++
    u8 (if b.isExtendedSecurity then 0 else UInt8.ofNat b.challenge.length)

open Encoder in
def bytes (b : NegotiateResponse) : Encoder :=
  if b.isExtendedSecurity then piece b.serverGuid.val ++ piece b.securityBlob
  else piece b.challenge ++ stringUnaligned b.domainName ++ stringUnaligned b.serverName

open Decoder in
def readWords (b : NegotiateResponse) (_ : UInt8) : Decoder NegotiateResponse := do
  let dialectIndex ← u16
  let securityMode ← u8
  let maxMpxCount ← u16
  let maxNumberVcs ← u16
  let maxBufferSize ← u32
  let maxRawSize ← u32
  let sessionKey ← u32
  let capabilities ← u32
  let systemTime ← u64
  let serverTimeZone ← u16
  let challengeLength ← u8
  return { b with
    dialectIndex, securityMode := Flags.ofBits securityMode, maxMpxCount, maxNumberVcs,
    maxBufferSize, maxRawSize, sessionKey, capabilities := Flags.ofBits capabilities,
    systemTime := Time.ofFileTime systemTime, serverTimeZone := Time.zoneMinutes serverTimeZone,
    challengeLength }

open Decoder in
/-- The server's own name is read only while bytes remain. -/
def readBytes (b : NegotiateResponse) (byteCount : Nat) : Decoder NegotiateResponse := do
  let limit ← ahead byteCount
  if b.isExtendedSecurity then
    let serverGuid ← octets 16
    let securityBlob ← take (byteCount - 16)
    return { b with serverGuid, securityBlob }
  else
    let challenge ← take b.challengeLength.toNat
    let domainName ← stringUnaligned limit
    if (← position) < limit then
      let serverName ← stringUnaligned limit
      return { b with challenge, domainName, serverName }
    else return { b with challenge, domainName }

end NegotiateResponse

end Smb1
