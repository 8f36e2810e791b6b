import Smb1.Config
import Smb1.Wire.Encoder
import Smb1.Wire.Reader

/-! Logging on. Credentials are two password fields, or one security blob. -/
namespace Smb1

open Wire

structure SessionSetupRequest where
  maxBufferSize : UInt16
  maxMpxCount : UInt16
  vcNumber : UInt16
  sessionKey : UInt32
  capabilities : Capabilities
  caseInsensitivePassword : Bytes
  caseSensitivePassword : Bytes
  securityBlob : Option Bytes
  accountName : String
  primaryDomain : String
  nativeOs : String
  nativeLanman : String
  deriving DecidableEq, Repr

namespace SessionSetupRequest

def blank : SessionSetupRequest := ⟨0, 0, 0, 0, ⟨0⟩, [], [], none, "", "", "", ""⟩

def ofConfig (config : Config) (sessionKey : UInt32) : SessionSetupRequest :=
  { blank with
    maxBufferSize := UInt16.ofNat (min config.receiveBufferSize 0xFFFF)
    maxMpxCount := config.maxMpxCount
    vcNumber := config.vcNumber
    sessionKey
    capabilities := config.capabilities
    nativeOs := config.nativeOs
    nativeLanman := config.nativeLanman }

def withCredentials (b : SessionSetupRequest) (accountName primaryDomain : String)
    (caseInsensitivePassword caseSensitivePassword : Bytes) : SessionSetupRequest :=
  { b with accountName, primaryDomain, caseInsensitivePassword, caseSensitivePassword }

def withSecurityBlob (b : SessionSetupRequest) (blob : Bytes) : SessionSetupRequest :=
  { b with
    securityBlob := some blob
    capabilities := b.capabilities ||| Capabilities.extendedSecurity }

/-- Parameter words of the form with a security blob. -/
def extendedWordCount : UInt8 := 12

open Encoder in
def words (b : SessionSetupRequest) : Encoder :=
  u16 b.maxBufferSize ++ u16 b.maxMpxCount ++ u16 b.vcNumber ++ u32 b.sessionKey ++
    (match b.securityBlob with
      | some blob => u16 (UInt16.ofNat blob.length)
      | none => u16 (UInt16.ofNat b.caseInsensitivePassword.length) ++
          u16 (UInt16.ofNat b.caseSensitivePassword.length)) ++
    u32 0 ++ u32 b.capabilities.bits

open Encoder in
def bytes (b : SessionSetupRequest) : Encoder :=
  (match b.securityBlob with
    | some blob => piece blob
    | none => piece b.caseInsensitivePassword ++ piece b.caseSensitivePassword ++
        string b.accountName ++ string b.primaryDomain) ++
    string b.nativeOs ++ string b.nativeLanman

open Decoder in
/-- The word count tells the two forms apart. A password or blob whose length is known stands for
zeros until its bytes are read. -/
def readWords (b : SessionSetupRequest) (wordCount : UInt8) : Decoder SessionSetupRequest := do
  let maxBufferSize ← u16
  let maxMpxCount ← u16
  let vcNumber ← u16
  let sessionKey ← u32
  let b := { b with maxBufferSize, maxMpxCount, vcNumber, sessionKey }
  let b ← if wordCount = extendedWordCount then do
      let length ← u16
      pure { b with securityBlob := some (List.replicate length.toNat 0) }
    else do
      let insensitive ← u16
      let sensitive ← u16
      pure { b with
        caseInsensitivePassword := List.replicate insensitive.toNat 0
        caseSensitivePassword := List.replicate sensitive.toNat 0 }
  skip 4
  let capabilities ← u32
  return { b with capabilities := Flags.ofBits capabilities }

open Decoder in
def readBytes (b : SessionSetupRequest) (byteCount : Nat) : Decoder SessionSetupRequest := do
  let limit ← ahead byteCount
  let b ← match b.securityBlob with
    | some blob => do
      let blob ← take blob.length
      pure { b with securityBlob := some blob }
    | none => do
      let caseInsensitivePassword ← take b.caseInsensitivePassword.length
      let caseSensitivePassword ← take b.caseSensitivePassword.length
      let accountName ← string limit
      let primaryDomain ← string limit
      pure { b with
        caseInsensitivePassword, caseSensitivePassword, accountName, primaryDomain }
  let nativeOs ← string limit
  let nativeLanman ← string limit
  return { b with nativeOs, nativeLanman }

/-- The commands that may follow in the same frame. -/
def successors : List Command := [.treeConnectAndX]

end SessionSetupRequest

structure SessionSetupResponse where
  action : UInt16
  securityBlob : Option Bytes
  nativeOs : String
  nativeLanman : String
  primaryDomain : String
  deriving DecidableEq, Repr

namespace SessionSetupResponse

def blank : SessionSetupResponse := ⟨0, none, "", "", ""⟩

def isGuest (b : SessionSetupResponse) : Bool := b.action &&& 1 != 0

open Encoder in
def words (b : SessionSetupResponse) : Encoder :=
  u16 b.action ++
    (match b.securityBlob with
      | some blob => u16 (UInt16.ofNat blob.length)
      | none => ∅)

open Encoder in
def bytes (b : SessionSetupResponse) : Encoder :=
  (match b.securityBlob with
    | some blob => piece blob
    | none => ∅) ++
    string b.nativeOs ++ string b.nativeLanman ++ string b.primaryDomain

open Decoder in
def readWords (b : SessionSetupResponse) (wordCount : UInt8) : Decoder SessionSetupResponse := do
  let action ← u16
  if 4 ≤ wordCount then
    let length ← u16
    return { b with action, securityBlob := some (List.replicate length.toNat 0) }
  else return { b with action }

open Decoder in
/-- A trailing string, or what the template has when no byte is left for it. -/
def trailing (limit : Nat) (template : String) : Decoder String := do
  if (← position) < limit then stringOrEmpty limit else return template

open Decoder in
/-- The trailing strings are optional. -/
def readBytes (b : SessionSetupResponse) (byteCount : Nat) : Decoder SessionSetupResponse := do
  let limit ← ahead byteCount
  let securityBlob ← match b.securityBlob with
    | some blob => some <$> take blob.length
    | none => pure none
  let nativeOs ← trailing limit b.nativeOs
  let nativeLanman ← trailing limit b.nativeLanman
  let primaryDomain ← trailing limit b.primaryDomain
  return { b with securityBlob, nativeOs, nativeLanman, primaryDomain }

end SessionSetupResponse

end Smb1
