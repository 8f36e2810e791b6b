import Smb1.Command
import Smb1.Wire.Encoder
import Smb1.Wire.Reader

/-! Connecting to a share. -/
namespace Smb1

open Wire

structure TreeConnectRequest where
  flags : UInt16
  password : Bytes
  /-- `\\server\share`. -/
  path : String
  service : String
  deriving DecidableEq, Repr

namespace TreeConnectRequest

/-- Any service type: the server answers with the real one. -/
def anyService : String := "?????"

/-- User level security has no share password, which a single null byte says. -/
def ofPath (path : String) : TreeConnectRequest := ⟨0, [0], path, anyService⟩

open Encoder in
def words (b : TreeConnectRequest) : Encoder :=
  u16 b.flags ++ u16 (UInt16.ofNat b.password.length)

open Encoder in
def bytes (b : TreeConnectRequest) : Encoder :=
  piece b.password ++ string b.path ++ oemString b.service

open Decoder in
def readWords (b : TreeConnectRequest) (_ : UInt8) : Decoder TreeConnectRequest := do
  let flags ← u16
  let length ← u16
  return { b with flags, password := List.replicate length.toNat 0 }

open Decoder in
def readBytes (b : TreeConnectRequest) (byteCount : Nat) : Decoder TreeConnectRequest := do
  let limit ← ahead byteCount
  let password ← take b.password.length
  let path ← string limit
  let service ← oemString limit
  return { b with password, path, service }

/-- The commands that may follow in the same frame. -/
def successors : List Command :=
  [.checkDirectory, .createDirectory, .delete, .deleteDirectory, .openAndX, .rename,
    .transaction, .queryInformation]

end TreeConnectRequest

structure TreeConnectResponse where
  optionalSupport : UInt16
  /-- What the user and what a guest may do at most. -/
  accessRights : Option (UInt32 × UInt32)
  service : String
  nativeFileSystem : String
  deriving DecidableEq, Repr

namespace TreeConnectResponse

def blank : TreeConnectResponse := ⟨0, none, "", ""⟩

def isDfs (b : TreeConnectResponse) : Bool := b.optionalSupport &&& 2 != 0

open Encoder in
def words (b : TreeConnectResponse) : Encoder :=
  u16 b.optionalSupport ++
    (match b.accessRights with
      | some (maximal, guest) => u32 maximal ++ u32 guest
      | none => ∅)

open Encoder in
def bytes (b : TreeConnectResponse) : Encoder :=
  oemString b.service ++ string b.nativeFileSystem

open Decoder in
def readWords (b : TreeConnectResponse) (wordCount : UInt8) : Decoder TreeConnectResponse := do
  let optionalSupport ← u16
  if 7 ≤ wordCount then
    let maximal ← u32
    let guest ← u32
    return { b with optionalSupport, accessRights := some (maximal, guest) }
  else return { b with optionalSupport }

open Decoder in
def readBytes (b : TreeConnectResponse) (byteCount : Nat) : Decoder TreeConnectResponse := do
  let limit ← ahead byteCount
  let service ← oemString limit
  if (← position) < limit then
    let nativeFileSystem ← stringOrEmpty limit
    return { b with service, nativeFileSystem }
  else return { b with service }

end TreeConnectResponse

end Smb1
