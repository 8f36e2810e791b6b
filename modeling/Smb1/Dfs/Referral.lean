import Smb1.Transaction.Referral

/-! Where a path leads: a ring of equivalent targets and how much of the request path they stand
for. -/
namespace Smb1.Dfs

/-- Milliseconds on a clock that starts at zero. -/
abbrev Moment := Nat

namespace Moment

/-- Seconds that the clock may have run before it showed zero. -/
def headStart : Nat := 1 <<< 17

/-- The first number of seconds that the clock cannot show. It counts them in 63 bits. -/
def horizon : Nat := 1 <<< 63 - headStart

/-- A number of seconds later, unless the clock does not reach so far. -/
def later (m : Moment) (seconds : Nat) : Except Error Moment :=
  if m / 1000 + seconds < horizon then .ok (m + seconds * 1000)
  else .error (.outOfRange (.lifetime seconds))

end Moment

def separator : Char := '\\'

def trimStart (chars : List Char) : List Char := chars.dropWhile (· == separator)

def trimEnd (chars : List Char) : List Char := (trimStart chars.reverse).reverse

/-- What stands before the first separator, and what stands behind it. -/
def cut (chars : List Char) : List Char × List Char :=
  (chars.takeWhile (· != separator), (chars.dropWhile (· != separator)).drop 1)

/-- One place that a path can be redirected to. -/
structure Target where
  server : String
  share : String
  /-- What follows the share, without a separator in front. -/
  path : String
  deriving DecidableEq, Repr

namespace Target

/-- The parts of `\server\share\path`. -/
def ofNode (node : String) : Target :=
  let (server, rest) := cut (trimStart node.toList)
  let (share, path) := cut rest
  ⟨String.ofList server, String.ofList share, String.ofList (trimEnd path)⟩

/-- A target that names only a server, as lists of domains and of their controllers do. -/
def ofServer (name : String) : Target := ⟨String.ofList (trimStart name.toList), "", ""⟩

def unc (t : Target) : String :=
  "\\" ++ t.server ++ "\\" ++ t.share ++ (if t.path.isEmpty then "" else "\\" ++ t.path)

end Target

structure Referral where
  targets : List Target
  current : Nat
  /-- Characters of the lookup key that the targets stand for. -/
  pathConsumed : Nat
  /-- Seconds. -/
  ttl : UInt32
  expiration : Moment
  /-- Whether credentials for the targets come from stored hashes. -/
  resolveHashes : Bool
  flags : Transaction.ReferralFlags
  /-- The link below the root under which the referral was found. -/
  link : Option String
  /-- The key under which it is kept. -/
  key : Option String
  current_lt : current < targets.length
  deriving DecidableEq, Repr

namespace Referral

/-- The targets that an entry names. A list of names without names stands for itself. -/
def targetsOf (e : Transaction.ReferralEntry) : List Target :=
  if e.isNameList then
    if e.expandedNames.isEmpty then [.ofServer e.specialName] else e.expandedNames.map .ofServer
  else if e.node.isEmpty then []
  else [.ofNode e.node]

/-- The shortest lifetime among the entries. -/
def shortestTtl (entries : List Transaction.ReferralEntry) : UInt32 :=
  ((entries.map (·.ttl)).min?).getD 0

/-- The referral that a response gives at a time; `none` when it names no target. -/
def ofResponse? (response : Transaction.ReferralResponse) (now : Moment) : Option Referral :=
  let targets := response.entries.flatMap targetsOf
  let ttl := shortestTtl response.entries
  if h : 0 < targets.length then
    some {
      targets
      current := 0
      pathConsumed := response.pathConsumed.toNat
      ttl
      expiration := now + ttl.toNat * 1000
      resolveHashes := false
      flags := response.flags
      link := none
      key := none
      current_lt := h }
  else none

def target (r : Referral) : Target := r.targets.get ⟨r.current, r.current_lt⟩

/-- Moves to the next target of the ring. -/
def rotate (r : Referral) : Referral :=
  { r with
    current := (r.current + 1) % r.targets.length
    current_lt := Nat.mod_lt _ (Nat.lt_of_le_of_lt (Nat.zero_le _) r.current_lt) }

def server (r : Referral) : String := r.target.server

def share (r : Referral) : String := r.target.share

def isExpired (r : Referral) (now : Moment) : Bool := r.expiration ≤ now

/-- A path relative to the referral's key, on its current target. -/
def redirect (r : Referral) (path : String) : String :=
  let rest := trimStart (path.toList.drop r.pathConsumed)
  r.target.unc ++ (if rest.isEmpty then "" else "\\" ++ String.ofList rest)

end Referral

end Smb1.Dfs
