import Smb1.Time
import Smb1.Wire.Encoder
import Smb1.Wire.Reader

/-! Closing a file, and asking whether a path is a directory. Both are answered without words or
bytes. -/
namespace Smb1

open Wire

structure CloseRequest where
  fid : UInt16
  /-- Seconds in the zone's time; the unset value leaves the time alone. -/
  lastWriteTime : UInt32
  deriving DecidableEq, Repr

namespace CloseRequest

def ofFid (fid : UInt16) : CloseRequest := ⟨fid, Time.unset⟩

def withLastWriteTime (fid : UInt16) (millis now : Int) (zone : Time.Zone) :
    Except Error CloseRequest := do
  return ⟨fid, ← Time.toSeconds millis now zone⟩

open Encoder in
def words (b : CloseRequest) : Encoder := u16 b.fid ++ u32 b.lastWriteTime

def bytes (_ : CloseRequest) : Encoder := ∅

open Decoder in
def readWords (_ : CloseRequest) (_ : UInt8) : Decoder CloseRequest := do
  let fid ← u16
  let lastWriteTime ← u32
  return { fid, lastWriteTime }

def readBytes (b : CloseRequest) (_ : Nat) : Decoder CloseRequest := pure b

end CloseRequest

structure CheckDirectoryRequest where
  directoryName : String
  deriving DecidableEq, Repr

namespace CheckDirectoryRequest

def nameFormat : UInt8 := 0x04

def words (_ : CheckDirectoryRequest) : Encoder := ∅

open Encoder in
def bytes (b : CheckDirectoryRequest) : Encoder := u8 nameFormat ++ string b.directoryName

def readWords (b : CheckDirectoryRequest) (_ : UInt8) : Decoder CheckDirectoryRequest := pure b

open Decoder in
def readBytes (_ : CheckDirectoryRequest) (byteCount : Nat) : Decoder CheckDirectoryRequest := do
  let limit ← ahead byteCount
  let format ← u8
  if format ≠ nameFormat then fail (.parse (.bufferFormat format))
  let directoryName ← string limit
  return { directoryName }

end CheckDirectoryRequest

end Smb1
