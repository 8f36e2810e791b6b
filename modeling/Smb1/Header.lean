import Smb1.Error
import Smb1.Flags
import Smb1.Wire.Reader

/-! The 32-byte header. Only the head of a chain carries one; all its links share it. -/
namespace Smb1

abbrev HeaderFlags := Flags UInt8 0xFF

namespace HeaderFlags

def response : HeaderFlags := ⟨0x80⟩
def canonicalPaths : HeaderFlags := ⟨0x10⟩
def caselessPaths : HeaderFlags := ⟨0x08⟩

end HeaderFlags

abbrev HeaderFlags2 := Flags UInt16 0xFC5F

namespace HeaderFlags2

def unicodeStrings : HeaderFlags2 := ⟨0x8000⟩
def statusCodes : HeaderFlags2 := ⟨0x4000⟩
def signature : HeaderFlags2 := ⟨0x0004⟩
def longNames : HeaderFlags2 := ⟨0x0001⟩

end HeaderFlags2

structure Header where
  command : Command
  status : UInt32
  flags : HeaderFlags
  flags2 : HeaderFlags2
  pidHigh : UInt16
  signature : Octets 8
  tid : UInt16
  pid : UInt16
  uid : UInt16
  mid : UInt16
  deriving DecidableEq, Repr

namespace Header

/-- Bytes of a header. -/
def length : Nat := 32

/-- Where the signature lies in a header. -/
def signatureOffset : Nat := 14

def signatureLength : Nat := 8

def ofIds (command : Command) (tid pid uid mid : UInt16) : Header where
  command
  status := 0
  flags := HeaderFlags.canonicalPaths ||| HeaderFlags.caselessPaths
  flags2 := HeaderFlags2.longNames ||| HeaderFlags2.statusCodes
  pidHigh := 0
  signature := Octets.zero 8
  tid
  pid
  uid
  mid

def blank : Header := ofIds .negotiate 0 0 0 0

instance : Inhabited Header := ⟨blank⟩

def ntStatus (h : Header) : Status := Status.ofCode h.status

def isUnicode (h : Header) : Bool := h.flags2.contains HeaderFlags2.unicodeStrings

def isResponse (h : Header) : Bool := h.flags.contains HeaderFlags.response

/-- The header as one link of the chain sees it. -/
def forLink (h : Header) (command : Command) : Header := { h with command }

/-- The header of an answer: the identifiers of the request, and no signature yet. -/
def toResponse (h : Header) (status : UInt32) : Header :=
  { h with status, flags := h.flags ||| HeaderFlags.response, signature := Octets.zero 8 }

def protocolId : Bytes := [0xFF, 0x53, 0x4D, 0x42]

def encode (h : Header) : Bytes :=
  protocolId ++ [h.command.code] ++ Word.encode h.status ++ [h.flags.bits] ++
    Word.encode h.flags2.bits ++ Word.encode h.pidHigh ++ h.signature.val ++ [0, 0] ++
    Word.encode h.tid ++ Word.encode h.pid ++ Word.encode h.uid ++ Word.encode h.mid

@[simp] theorem length_encode (h : Header) : h.encode.length = length := by
  simp [encode, protocolId, Word.size, length, h.signature.property]

open Wire.Decoder in
/-- Reads the fields in order. The caller has checked that there are enough bytes. -/
def fields : Wire.Decoder Header := do
  let protocol ← take 4
  if protocol ≠ protocolId then fail (.parse .missingProtocol)
  let code ← u8
  let status ← u32
  let flags ← u8
  let flags2 ← u16
  let pidHigh ← u16
  let signature ← octets 8
  skip 2
  let tid ← u16
  let pid ← u16
  let uid ← u16
  let mid ← u16
  match Command.ofCode? code with
  | none => fail (.parse (.unknownCommand code))
  | some command =>
    pure ⟨command, status, Flags.ofBits flags, Flags.ofBits flags2, pidHigh, signature, tid, pid,
      uid, mid⟩

/-- The header at the start of `input` and what follows it. -/
def decode (input : Bytes) : Except Error (Header × Bytes) :=
  if input.length < length then .error (.tooSmall length input.length)
  else do
    let (header, _) ← fields (Wire.Reader.start input false)
    .ok (header, input.drop length)

end Header

end Smb1
