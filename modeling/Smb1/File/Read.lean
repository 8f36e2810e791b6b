import Smb1.Command
import Smb1.Wire.Encoder
import Smb1.Wire.Reader

/-! Reading from a file. Offsets and counts are split into halves, the high half of the count in
the field of a timeout. A detached response had its payload delivered straight from the stream. -/
namespace Smb1

open Wire

structure ReadRequest where
  fid : UInt16
  offset : UInt64
  maxCount : UInt32
  minCount : UInt16
  remaining : UInt16
  deriving DecidableEq, Repr

namespace ReadRequest

def ofRange (fid : UInt16) (offset : UInt64) (maxCount : UInt32) : ReadRequest :=
  ⟨fid, offset, maxCount, (min maxCount 0xFFFF).toUInt16, 0⟩

open Encoder in
def words (b : ReadRequest) : Encoder :=
  u16 b.fid ++ u32 b.offset.toUInt32 ++ u16 b.maxCount.toUInt16 ++ u16 b.minCount ++
    u32 (b.maxCount >>> 16) ++ u16 b.remaining ++ u32 (b.offset >>> 32).toUInt32

def bytes (_ : ReadRequest) : Encoder := ∅

open Decoder in
/-- The high half of the offset is optional. A count field that holds the endless timeout has no
high half of a count. -/
def readWords (_ : ReadRequest) (wordCount : UInt8) : Decoder ReadRequest := do
  let fid ← u16
  let offsetLow ← u32
  let maxCountLow ← u16
  let minCount ← u16
  let maxCountHigh ← u32
  let remaining ← u16
  let offsetHigh ← if 12 ≤ wordCount then u32 else pure 0
  let maxCountHigh := if maxCountHigh = 0xFFFFFFFF then 0 else maxCountHigh &&& 0xFFFF
  return {
    fid, minCount, remaining
    offset := (offsetHigh.toUInt64 <<< 32) ||| offsetLow.toUInt64
    maxCount := (maxCountHigh <<< 16) ||| maxCountLow.toUInt32 }

def readBytes (b : ReadRequest) (_ : Nat) : Decoder ReadRequest := pure b

/-- The commands that may follow in the same frame. -/
def successors : List Command := [.close]

end ReadRequest

structure ReadResponse where
  available : UInt16
  dataCompactionMode : UInt16
  dataLength : UInt32
  dataOffset : UInt16
  data : Bytes
  detached : Bool
  deriving DecidableEq, Repr

namespace ReadResponse

def ofData (data : Bytes) : ReadResponse := ⟨0, 0, UInt32.ofNat data.length, 0, data, false⟩

def blank : ReadResponse := ofData []

def ofDetached (payload : Bytes) : ReadResponse := { ofData payload with detached := true }

/-- What precedes the padding and the payload: header, word count, words and byte count. -/
def headLength : Nat := 59

def wordCount : UInt8 := 12

/-- Where in the message the fields lie that say how much payload there is and where. -/
def dataLengthOffset : Nat := 43
def dataOffsetOffset : Nat := 45
def dataLengthHighOffset : Nat := 47

open Encoder in
def words (b : ReadResponse) : Encoder :=
  positioned fun start _ =>
    let dataOffset := Alignment.two.up (start + 20 + 2)
    u16 b.available ++ u16 b.dataCompactionMode ++ u16 0 ++ u16 (UInt16.ofNat b.data.length) ++
      u16 (UInt16.ofNat dataOffset) ++ u16 (UInt16.ofNat (b.data.length / 0x10000)) ++ zeros 8

open Encoder in
def bytes (b : ReadResponse) : Encoder := align .two ++ piece b.data

open Decoder in
def readWords (b : ReadResponse) (_ : UInt8) : Decoder ReadResponse := do
  let available ← u16
  let dataCompactionMode ← u16
  skip 2
  let lengthLow ← u16
  let dataOffset ← u16
  let lengthHigh ← u16
  skip 8
  return { b with
    available, dataCompactionMode, dataOffset
    dataLength := (lengthHigh.toUInt32 <<< 16) ||| lengthLow.toUInt32 }

/-- A detached response keeps the payload it was given. -/
def readBytes (b : ReadResponse) (_ : Nat) : Decoder ReadResponse := fun r =>
  if b.detached then .ok (b, r)
  else
    match r.slice b.dataOffset.toNat b.dataLength.toNat with
    | .ok data => .ok ({ b with data }, r)
    | .error _ =>
      .error (.protocol (.readDataOutside b.dataLength.toNat b.dataOffset.toNat))

end ReadResponse

end Smb1
