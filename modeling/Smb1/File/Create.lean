import Smb1.File.Access
import Smb1.Wire.Encoder
import Smb1.Wire.Reader

/-! Opening a file. The extended response has fifty parameter words but reports forty-two, so its
reader has to know beforehand that it asked for the extended form. -/
namespace Smb1

open Wire

structure CreateRequest where
  flags : CreateFlags
  rootDirectoryFid : UInt32
  desiredAccess : UInt32
  allocationSize : UInt64
  fileAttributes : FileAttributes
  shareAccess : ShareAccess
  createDisposition : CreateDisposition
  createOptions : CreateOptions
  impersonationLevel : ImpersonationLevel
  securityFlags : UInt8
  fileName : String
  deriving DecidableEq, Repr

namespace CreateRequest

def ofName (fileName : String) (desiredAccess : UInt32) (createDisposition : CreateDisposition) :
    CreateRequest where
  flags := ⟨0⟩
  rootDirectoryFid := 0
  desiredAccess
  allocationSize := 0
  fileAttributes := FileAttributes.normal
  shareAccess := ShareAccess.read ||| ShareAccess.write ||| ShareAccess.delete
  createDisposition
  createOptions := ⟨0⟩
  impersonationLevel := .impersonation
  securityFlags := 0
  fileName

def requestsExtendedResponse (b : CreateRequest) : Bool :=
  b.flags.contains CreateFlags.extendedResponse

/-- Bytes of the name without its terminator. -/
def nameLength (b : CreateRequest) (unicode : Bool) : Nat :=
  if unicode then (Text.Utf16.units b.fileName).length * 2
  else (Text.Latin1.encode b.fileName).length

open Encoder in
def words (b : CreateRequest) : Encoder :=
  positioned fun _ unicode =>
    u8 0 ++ u16 (UInt16.ofNat (b.nameLength unicode)) ++ u32 b.flags.bits ++
      u32 b.rootDirectoryFid ++ u32 b.desiredAccess ++ u64 b.allocationSize ++
      u32 b.fileAttributes.bits ++ u32 b.shareAccess.bits ++ u32 b.createDisposition.code ++
      u32 b.createOptions.bits ++ u32 b.impersonationLevel.code ++ u8 b.securityFlags

open Encoder in
def bytes (b : CreateRequest) : Encoder := string b.fileName

open Decoder in
def readWords (b : CreateRequest) (_ : UInt8) : Decoder CreateRequest := do
  skip 1
  let _nameLength ← u16
  let flags ← u32
  let rootDirectoryFid ← u32
  let desiredAccess ← u32
  let allocationSize ← u64
  let fileAttributes ← u32
  let shareAccess ← u32
  let createDisposition ← u32
  let createOptions ← u32
  let impersonationLevel ← u32
  let securityFlags ← u8
  return { b with
    flags := Flags.ofBits flags, rootDirectoryFid, desiredAccess, allocationSize,
    fileAttributes := ⟨fileAttributes⟩, shareAccess := Flags.ofBits shareAccess,
    createDisposition := .ofCode createDisposition, createOptions := ⟨createOptions⟩,
    impersonationLevel := .ofCode impersonationLevel, securityFlags }

open Decoder in
def readBytes (b : CreateRequest) (byteCount : Nat) : Decoder CreateRequest := do
  let limit ← ahead byteCount
  let fileName ← string limit
  return { b with fileName }

end CreateRequest

structure CreateResponse where
  oplockLevel : UInt8
  fid : UInt16
  createAction : UInt32
  creationTime : Int
  lastAccessTime : Int
  lastWriteTime : Int
  changeTime : Int
  fileAttributes : FileAttributes
  allocationSize : UInt64
  endOfFile : UInt64
  resourceType : UInt16
  pipeStatus : UInt16
  directory : Bool
  /-- Set before decoding when the request asked for the extended form. -/
  extended : Bool
  volumeGuid : Octets 16
  fileId : UInt64
  maximalAccessRights : UInt32
  guestMaximalAccessRights : UInt32
  deriving DecidableEq, Repr

namespace CreateResponse

def blank : CreateResponse :=
  ⟨0, 0, 0, 0, 0, 0, 0, ⟨0⟩, 0, 0, 0, 0, false, false, Octets.zero 16, 0, 0, 0⟩

/-- The template for the answer to a request. -/
def forRequest (request : CreateRequest) : CreateResponse :=
  { blank with extended := request.requestsExtendedResponse }

def extendedWordCount : UInt8 := 50

/-- The word count that an extended response carries, eight short of its words. -/
def reportedExtendedWordCount : UInt8 := 42

open Encoder in
def words (b : CreateResponse) : Encoder :=
  u8 b.oplockLevel ++ u16 b.fid ++ u32 b.createAction ++
    fileTime b.creationTime ++ fileTime b.lastAccessTime ++
    fileTime b.lastWriteTime ++ fileTime b.changeTime ++
    u32 b.fileAttributes.bits ++ u64 b.allocationSize ++ u64 b.endOfFile ++
    u16 b.resourceType ++ u16 b.pipeStatus ++ u8 (if b.directory then 1 else 0) ++
    (if b.extended then
      piece b.volumeGuid.val ++ u64 b.fileId ++ u32 b.maximalAccessRights ++
        u32 b.guestMaximalAccessRights
    else ∅)

def bytes (_ : CreateResponse) : Encoder := ∅

open Decoder in
def readWords (b : CreateResponse) (wordCount : UInt8) : Decoder CreateResponse := do
  let oplockLevel ← u8
  let fid ← u16
  let createAction ← u32
  let creationTime ← u64
  let lastAccessTime ← u64
  let lastWriteTime ← u64
  let changeTime ← u64
  let fileAttributes ← u32
  let allocationSize ← u64
  let endOfFile ← u64
  let resourceType ← u16
  let pipeStatus ← u16
  let directory ← u8
  let b := { b with
    oplockLevel, fid, createAction, creationTime := Time.ofFileTime creationTime,
    lastAccessTime := Time.ofFileTime lastAccessTime,
    lastWriteTime := Time.ofFileTime lastWriteTime, changeTime := Time.ofFileTime changeTime,
    fileAttributes := ⟨fileAttributes⟩, allocationSize, endOfFile, resourceType, pipeStatus,
    directory := directory != 0 }
  if b.extended && extendedWordCount ≤ wordCount then
    let volumeGuid ← octets 16
    let fileId ← u64
    let maximalAccessRights ← u32
    let guestMaximalAccessRights ← u32
    return { b with volumeGuid, fileId, maximalAccessRights, guestMaximalAccessRights }
  else return b

def readBytes (b : CreateResponse) (_ : Nat) : Decoder CreateResponse := pure b

/-- Words to add to a received word count before the byte count is looked for. -/
def wordCountAdjustment (b : CreateResponse) (wordCount : UInt8) : UInt8 :=
  if b.extended && wordCount == reportedExtendedWordCount then
    extendedWordCount - reportedExtendedWordCount
  else 0

/-- The word count to put on the wire for the words written. -/
def reportedWordCount (b : CreateResponse) (written : UInt8) : UInt8 :=
  if b.extended && written == extendedWordCount then reportedExtendedWordCount else written

end CreateResponse

end Smb1
