import Smb1.Security.Des
import Smb1.Security.Md4
import Smb1.Security.Md5
import Smb1.Text.Case
import Smb1.Text.Latin1
import Smb1.Text.Utf16

/-! Password logons: what proves a password to a server without showing it, and the keys that come
with it. A level of compatibility chooses among the old responses and those of version two. -/
namespace Smb1

open Security

structure User where
  domain : String
  username : String
  password : String
  deriving DecidableEq, Repr

namespace User

def anonymous : User := ⟨"", "", ""⟩

def isAnonymous (u : User) : Bool := u.username.isEmpty && u.password.isEmpty

end User

namespace Ntlm

def ntHash (password : String) : Bytes := Md4.digest (Text.Utf16.encode password)

/-- What the two halves of an old password encrypt. -/
def lmBlock : Bytes := [0x4B, 0x47, 0x53, 0x21, 0x40, 0x23, 0x24, 0x25]

/-- The password in upper case, cut or filled to fourteen bytes, as two keys. -/
def lmHash (password : String) : Except Error Bytes := do
  let text := Text.Latin1.encode (Text.toUpper password)
  let key := text.take 14 ++ List.replicate (14 - text.length) 0
  let first ← Des.encrypt (key.take 7) lmBlock
  let second ← Des.encrypt (key.drop 7) lmBlock
  return first ++ second

def response (password : String) (challenge : Bytes) : Except Error Bytes :=
  Des.encryptLong (ntHash password) challenge

def lmResponse (password : String) (challenge : Bytes) : Except Error Bytes := do
  Des.encryptLong (← lmHash password) challenge

def sessionKey (password : String) : Bytes := Md4.digest (ntHash password)

/-- The user's key of version two: the upper-case name and the domain under the password's hash. -/
def userKey (user : User) : Bytes :=
  Md5.keyed (ntHash user.password) (Text.Utf16.encode (Text.toUpper user.username ++ user.domain))

/-- Proof of both challenges. -/
def proofV2 (user : User) (challenge clientChallenge : Bytes) : Bytes :=
  Md5.keyed (userKey user) (challenge ++ clientChallenge)

def lmResponseV2 (user : User) (challenge clientChallenge : Bytes) : Bytes :=
  proofV2 user challenge clientChallenge ++ clientChallenge

def sessionKeyV2 (user : User) (challenge clientChallenge : Bytes) : Bytes :=
  Md5.keyed (userKey user) (proofV2 user challenge clientChallenge)

end Ntlm

/-- A user facing one server challenge. -/
structure Authentication where
  user : User
  level : UInt8
  challenge : Bytes
  clientChallenge : Octets 8
  deriving DecidableEq, Repr

namespace Authentication

def usesV2 (a : Authentication) : Bool := 3 ≤ a.level && a.level ≤ 5

/-- The password field that ignores case. -/
def ansiResponse (a : Authentication) : Except Error Bytes :=
  if a.level ≤ 1 then Ntlm.lmResponse a.user.password a.challenge
  else if a.usesV2 then .ok (Ntlm.lmResponseV2 a.user a.challenge a.clientChallenge.val)
  else Ntlm.response a.user.password a.challenge

/-- The password field that minds case. Version two leaves it empty. -/
def unicodeResponse (a : Authentication) : Except Error Bytes :=
  if a.usesV2 then .ok [] else Ntlm.response a.user.password a.challenge

def sessionKey (a : Authentication) : Bytes :=
  if a.usesV2 then Ntlm.sessionKeyV2 a.user a.challenge a.clientChallenge.val
  else Ntlm.sessionKey a.user.password

/-- The key that signs the session: the session key, and behind it the response of an old level. -/
def signingKey (a : Authentication) : Except Error Bytes := do
  if a.usesV2 then return a.sessionKey
  else return a.sessionKey ++ (← a.unicodeResponse)

end Authentication

end Smb1
