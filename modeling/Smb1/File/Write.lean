import Smb1.Command
import Smb1.Error
import Smb1.Wire.Encoder
import Smb1.Wire.Payload
import Smb1.Wire.Reader

/-! Writing to a file. The payload starts on a four-byte boundary. -/
namespace Smb1

open Wire

structure WriteRequest where
  fid : UInt16
  offset : UInt64
  writeMode : UInt16
  remaining : UInt16
  data : Payload
  /-- Where the parameter words of a received request put the payload. -/
  dataOffset : UInt16
  deriving DecidableEq, Repr

namespace WriteRequest

def ofData (fid : UInt16) (offset : UInt64) (data : Bytes) : WriteRequest :=
  ⟨fid, offset, 0, 0, .held data, 0⟩

open Encoder in
def words (b : WriteRequest) : Encoder :=
  positioned fun start _ =>
    let dataOffset := Alignment.four.up (start + 26)
    u16 b.fid ++ u32 b.offset.toUInt32 ++ u32 0 ++ u16 b.writeMode ++ u16 b.remaining ++
      u16 (UInt16.ofNat (b.data.length / 0x10000)) ++ u16 (UInt16.ofNat b.data.length) ++
      u16 (UInt16.ofNat dataOffset) ++ u32 (b.offset >>> 32).toUInt32

open Encoder in
def bytes (b : WriteRequest) : Encoder := align .four ++ piece b.data.bytes

open Decoder in
def readWords (_ : WriteRequest) (wordCount : UInt8) : Decoder WriteRequest := do
  let fid ← u16
  let offsetLow ← u32
  skip 4
  let writeMode ← u16
  let remaining ← u16
  let lengthHigh ← u16
  let lengthLow ← u16
  let dataOffset ← u16
  let offsetHigh ← if 14 ≤ wordCount then u32 else pure 0
  return {
    fid, writeMode, remaining, dataOffset
    offset := (offsetHigh.toUInt64 <<< 32) ||| offsetLow.toUInt64
    data := .announced (lengthHigh.toNat * 0x10000 + lengthLow.toNat) }

def readBytes (b : WriteRequest) (_ : Nat) : Decoder WriteRequest := fun r =>
  match r.slice b.dataOffset.toNat b.data.length with
  | .ok data => .ok ({ b with data := .held data }, r)
  | .error _ => .error (.protocol .writeDataOutside)

/-- The commands that may follow in the same frame. -/
def successors : List Command := [.close]

end WriteRequest

structure WriteResponse where
  count : UInt32
  available : UInt16
  deriving DecidableEq, Repr

namespace WriteResponse

open Encoder in
def words (b : WriteResponse) : Encoder :=
  u16 b.count.toUInt16 ++ u16 b.available ++ u16 (b.count >>> 16).toUInt16 ++ u16 0

def bytes (_ : WriteResponse) : Encoder := ∅

open Decoder in
def readWords (_ : WriteResponse) (_ : UInt8) : Decoder WriteResponse := do
  let low ← u16
  let available ← u16
  let high ← u16
  skip 2
  return { count := (high.toUInt32 <<< 16) ||| low.toUInt32, available }

def readBytes (b : WriteResponse) (_ : Nat) : Decoder WriteResponse := pure b

end WriteResponse

end Smb1
