import Smb1.File.Read
import Smb1.Header

/-! Session messages on a byte stream: a type byte and a 24-bit length, most significant byte first,
in front of every message. Keep-alive packets may stand between messages and are skipped. -/
namespace Smb1.Netbios

def headerLength : Nat := 4

def sessionMessage : UInt8 := 0x00

def keepAlive : UInt8 := 0x85

def maxFrameLength : Nat := 0xFFFFFF

def header (type : UInt8) (length : Nat) : Bytes := type :: (leBytes 3 length).reverse

/-- The next `count` bytes and the rest. Too short a stream is used up. -/
def readExact (count : Nat) (input : Bytes) : Except Error Bytes × Bytes :=
  let taken := input.take count
  if taken.length < count then (.error (.io .endOfStream), []) else (.ok taken, input.drop count)

theorem length_readExact_le (count : Nat) (input : Bytes) :
    (readExact count input).2.length ≤ input.length := by
  unfold readExact
  simp only
  split <;> simp

/-- The length of the next session message. -/
def readHeader (input : Bytes) : Except Error Nat × Bytes :=
  match input with
  | type :: high :: middle :: low :: body =>
    let length := leNat [low, middle, high]
    if type = sessionMessage then (.ok length, body)
    else if type = keepAlive then
      match _read : readExact length body with
      | (.error e, rest) => (.error e, rest)
      | (.ok _, rest) => readHeader rest
    else (.error (.protocol (.packetType type)), body)
  | _ => (.error (.io .endOfStream), [])
termination_by input.length
decreasing_by
  have shorter := length_readExact_le length body
  rw [_read] at shorter
  simp only [List.length_cons]
  simp only at shorter
  omega

/-- A message's header takes four bytes at least. -/
theorem length_readHeader_lt {input rest : Bytes} {length : Nat}
    (h : readHeader input = (.ok length, rest)) : rest.length < input.length := by
  fun_induction readHeader input with
  | case1 => simp_all; omega
  | case2 => simp at h
  | case3 high middle low body size _ after read _ ih =>
    have shorter := length_readExact_le size body
    rw [read] at shorter
    have := ih h
    simp only [List.length_cons]
    simp only at shorter
    omega
  | case4 => simp at h
  | case5 => simp at h

/-- The next session message. -/
def readFrame (input : Bytes) : Except Error Bytes × Bytes :=
  match readHeader input with
  | (.error e, rest) => (.error e, rest)
  | (.ok length, rest) => readExact length rest

theorem length_readFrame_lt {input rest frame : Bytes}
    (h : readFrame input = (.ok frame, rest)) : rest.length < input.length := by
  unfold readFrame at h
  split at h
  · simp at h
  next length body read =>
    have shorter := length_readHeader_lt read
    have := length_readExact_le length body
    rw [h] at this
    simp only at this
    omega

/-- All session messages up to the first that cannot be read, and what that leaves. -/
def readFrames (input : Bytes) : List Bytes × Bytes :=
  match _read : readFrame input with
  | (.error _, rest) => ([], rest)
  | (.ok frame, rest) =>
    let (frames, rest) := readFrames rest
    (frame :: frames, rest)
termination_by input.length
decreasing_by exact length_readFrame_lt _read

/-- A frame whose file data, if it was delivered apart, lies in the caller's buffer. -/
structure SplitFrame where
  /-- The message without that data. -/
  head : Bytes
  /-- How many bytes of data lie in the buffer. -/
  payloadLength : Option Nat
  buffer : Bytes
  deriving DecidableEq, Repr

open Wire in
/-- Where the data of a successful read response starts and how long it is, as the fixed part of
the message says. -/
def readPayload (head : Bytes) : Except Error (Option (Nat × Nat)) := do
  if head.length < ReadResponse.headLength then return none
  if (← Buffer.byteAt head 4) ≠ Command.readAndX.code then return none
  if (← Buffer.between head 5 9) ≠ [0, 0, 0, 0] then return none
  if (← Buffer.byteAt head Header.length) ≠ ReadResponse.wordCount then return none
  let low ← Buffer.wordAt UInt16 head ReadResponse.dataLengthOffset
  let high ← Buffer.wordAt UInt16 head ReadResponse.dataLengthHighOffset
  let offset ← Buffer.wordAt UInt16 head ReadResponse.dataOffsetOffset
  return some (offset.toNat, low.toNat + high.toNat * 0x10000)

/-- The payload that can be delivered apart: it ends the frame, starts behind what is already
read, and fits the buffer. -/
def splitAt (head : Bytes) (length room : Nat) : Except Error (Option (Nat × Nat)) := do
  match ← readPayload head with
  | none => return none
  | some (offset, dataLength) =>
    let stop ← Wire.Position.add offset dataLength
    return if head.length ≤ offset ∧ stop = length ∧ dataLength ≤ room then
      some (offset, dataLength) else none

/-- Reads on until there are `length` bytes behind those that were read before. -/
def readOn (head : Bytes) (length : Nat) (input : Bytes) : Except Error Bytes × Bytes :=
  match Wire.Buffer.behind head.length length with
  | .error e => (.error e, input)
  | .ok count =>
    match readExact count input with
    | (.error e, rest) => (.error e, rest)
    | (.ok tail, rest) => (.ok (head ++ tail), rest)

/-- Reads into the first `count` bytes of a buffer. -/
def readInto (buffer : Bytes) (count : Nat) (input : Bytes) : Except Error Bytes × Bytes :=
  match Wire.Buffer.between buffer 0 count with
  | .error e => (.error e, input)
  | .ok _ =>
    match readExact count input with
    | (.error e, rest) => (.error e, rest)
    | (.ok bytes, rest) => (.ok (bytes ++ buffer.drop count), rest)

/-- Like `readFrame`, but the data of a read response that ends the frame goes to `buffer`. -/
def readSplitFrame (input buffer : Bytes) : Except Error SplitFrame × Bytes :=
  match readHeader input with
  | (.error e, rest) => (.error e, rest)
  | (.ok length, rest) =>
    match readExact (min ReadResponse.headLength length) rest with
    | (.error e, rest) => (.error e, rest)
    | (.ok head, rest) =>
      match splitAt head length buffer.length with
      | .error e => (.error e, rest)
      | .ok none =>
        match readOn head length rest with
        | (.error e, rest) => (.error e, rest)
        | (.ok frame, rest) => (.ok ⟨frame, none, buffer⟩, rest)
      | .ok (some (offset, dataLength)) =>
        match readOn head offset rest with
        | (.error e, rest) => (.error e, rest)
        | (.ok head, rest) =>
          match readInto buffer dataLength rest with
          | (.error e, rest) => (.error e, rest)
          | (.ok buffer, rest) => (.ok ⟨head, some dataLength, buffer⟩, rest)

end Smb1.Netbios
