import Smb1.Message.Basic
import Smb1.Security.Credentials

/-! Message signing. A signature is the first eight bytes of a digest over the key and the message,
taken while the signature field holds a sequence number. A request uses two numbers, one for itself
and the next one for its response. The digest is a parameter of what follows. -/
namespace Smb1

inductive Bypass
  | disabled
  /-- The next signed message carries the bypass text. -/
  | armed
  | consumed
  deriving DecidableEq, Repr

structure Signer where
  key : Bytes
  sequence : UInt32
  bypass : Bypass
  deriving DecidableEq, Repr

namespace Signer

abbrev Digest := Bytes → Bytes

/-- What stands for a signature while the bypass is armed. -/
def bypassSignature : Bytes := [0x42, 0x53, 0x52, 0x53, 0x50, 0x59, 0x4C, 0x20]

def ofKey (key : Bytes) : Signer := ⟨key, 0, .disabled⟩

def ofAuthentication (a : Authentication) : Except Error Signer := ofKey <$> a.signingKey

theorem ofAuthentication_eq_ok {a : Authentication} {s : Signer}
    (h : ofAuthentication a = .ok s) : ∃ key, a.signingKey = .ok key ∧ s = ofKey key := by
  unfold ofAuthentication at h
  cases made : a.signingKey with
  | error e =>
    rw [made] at h
    cases h
  | ok key =>
    rw [made] at h
    cases h
    exact ⟨key, rfl, rfl⟩

def withSequence (s : Signer) (sequence : UInt32) : Signer := { s with sequence }

def armBypass (s : Signer) : Signer := { s with bypass := .armed }

/-- The contents of the signature field while the digest is taken. -/
def sequenceField (sequence : UInt32) : Bytes := Word.encode sequence ++ [0, 0, 0, 0]

/-- `bytes` with the eight bytes at `position` replaced. -/
def replaceField (bytes field : Bytes) (position : Nat) : Bytes :=
  bytes.take position ++ field ++ bytes.drop (position + Header.signatureLength)

/-- A buffer with its message signed, and the numbers that request and response have. -/
structure Signed where
  buffer : Bytes
  requestSeq : UInt32
  responseSeq : UInt32
  signer : Signer
  deriving DecidableEq, Repr

/-- Signs the message of `length` bytes at `offset`. -/
def sign (s : Signer) (digest : Digest) (buffer : Bytes) (offset length : Nat) :
    Except Error Signed :=
  if offset + length ≤ buffer.length ∧ Header.length ≤ length then
    let field := offset + Header.signatureOffset
    let prepared := replaceField buffer (sequenceField s.sequence) field
    let signature := match s.bypass with
      | .armed => bypassSignature
      | _ => (digest (s.key ++ (prepared.drop offset).take length)).take Header.signatureLength
    .ok {
      buffer := replaceField prepared signature field
      requestSeq := s.sequence
      responseSeq := s.sequence + 1
      signer := { s with
        sequence := s.sequence + 2
        bypass := if s.bypass = .armed then .consumed else s.bypass } }
  else .error (.precondition (.unsignable length offset buffer.length))

theorem sign_eq_ok {s : Signer} {digest : Digest} {buffer : Bytes} {offset length : Nat}
    {signed : Signed} (h : s.sign digest buffer offset length = .ok signed) :
    signed.requestSeq = s.sequence ∧ signed.responseSeq = s.sequence + 1 ∧
      signed.signer = { s with
        sequence := s.sequence + 2
        bypass := if s.bypass = .armed then .consumed else s.bypass } := by
  unfold sign at h
  split at h
  · cases h
    exact ⟨rfl, rfl, rfl⟩
  · cases h

/-- The payload of a response that was delivered apart from its frame. It is looked for at the head
of the chain only. -/
def detachedPayload (response : Message) : Bytes :=
  match response.bodies with
  | .readResponse read :: _ => if read.detached then read.data else []
  | _ => []

/-- Where the part of a message behind its signature starts. -/
def bodyOffset : Nat := Header.signatureOffset + Header.signatureLength

/-- Whether a received message carries the signature that its number calls for. A payload delivered
elsewhere counts behind the part of the message that precedes it. -/
def accepts (s : Signer) (digest : Digest) (frame : Bytes) (response : Message) : Bool :=
  let payload := detachedPayload response
  let stop := response.length - payload.length
  if bodyOffset ≤ stop ∧ stop ≤ frame.length then
    let computed := digest (s.key ++ frame.take Header.signatureOffset ++
      sequenceField response.signSeq ++ (frame.take stop).drop bodyOffset ++ payload)
    Header.signatureLength ≤ computed.length &&
      computed.take Header.signatureLength ==
        (frame.drop Header.signatureOffset).take Header.signatureLength
  else false

/-- Checks a received message and records the outcome in it. -/
def verify (s : Signer) (digest : Digest) (frame : Bytes) (response : Message) : Message × Bool :=
  let passed := s.accepts digest frame response
  ({ response with verification := if passed then .passed else .failed }, passed)

/-- Checks a message that lies at `offset` in a buffer. Its signature field and its end have to be
positions there. -/
def verifyAt (s : Signer) (digest : Digest) (buffer : Bytes) (offset : Nat) (response : Message) :
    Except Error (Message × Bool) := do
  discard (Wire.Position.add offset (max bodyOffset response.length))
  return s.verify digest (buffer.drop offset) response

end Signer

end Smb1
