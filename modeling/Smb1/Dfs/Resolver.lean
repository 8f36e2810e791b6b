import Smb1.Config
import Smb1.Dfs.Referral
import Smb1.KeyMap
import Smb1.Text.Case

/-! Resolving paths against three caches: the domains that the user's domain trusts, the roots of
each of them, and the referrals of stand-alone paths. What is missing is asked of a network; what
cannot be found is remembered for roots. Failed questions resolve to nothing: only rejected
credentials are reported, and only under a strict view. -/
namespace Smb1.Dfs

open Transaction

/-- What the resolver needs of a connected client with state `σ`. -/
structure Network (σ : Type) where
  userDomain : σ → Option String
  ask : (server path : String) → (maxLevel : UInt16) → σ → Except Error ReferralResponse × σ

structure Cached (α : Type) where
  expiration : Moment
  value : α
  deriving DecidableEq, Repr

def Cached.isExpired (c : Cached α) (now : Moment) : Bool := c.expiration ≤ now

inductive RootEntry
  /-- The root could not be resolved. Only the whole list of domains takes this back. -/
  | negative
  | found (referral : Cached (Option Referral))
  deriving DecidableEq, Repr

abbrev Roots := KeyMap RootEntry

structure Cache where
  /-- Trusted domains in lower case, each with its roots. -/
  domains : Option (Cached (KeyMap Roots))
  /-- Referrals by stand-alone path, in lower case. -/
  standalone : Option (Cached (KeyMap Referral))
  deriving DecidableEq, Repr

def Cache.empty : Cache := ⟨none, none⟩

structure Settings where
  disabled : Bool
  strictView : Bool
  /-- Seconds. -/
  ttl : Nat
  deriving DecidableEq, Repr

/-- A step over the caches and the client, both of which an error leaves as they are by then. -/
abbrev Lookup (σ : Type) := EStateM Error (Cache × σ)

namespace Lookup

def rootLink : String := "\\"

def ipcShare : String := "IPC$"

/-- Seconds before its end from which on the stand-alone cache takes no more entries. -/
def expiryMargin : Nat := 10

/-- How much longer than the other tiers the list of domains lives. -/
def domainTtlFactor : Nat := 10

def joined (domain root : String) : String := "\\" ++ domain ++ "\\" ++ root

variable {σ : Type} (settings : Settings) (net : Network σ) (now : Moment)

def cache : Lookup σ Cache := fun s => .ok s.1 s

def setCache (cache : Cache) : Lookup σ Unit := fun s => .ok () (cache, s.2)

def after (seconds : Nat) : Lookup σ Moment := fun s =>
  match now.later seconds with
  | .ok moment => .ok moment s
  | .error e => .error e s

/-- One question to the network. -/
def fetch (server path : String) : Lookup σ (Option Referral) := fun (cache, client) =>
  match net.ask server path ReferralRequest.standardMaxReferralLevel client with
  | (.ok response, client) => .ok (Referral.ofResponse? response now) (cache, client)
  | (.error e, client) =>
    if settings.strictView && e.isAuth then .error e (cache, client)
    else .ok none (cache, client)

/-- The first controller that a domain's referral names. -/
def findController (domain : String) : Lookup σ (Option String) := do
  return (← fetch settings net now domain ("\\" ++ domain)).map Referral.server

def userDomain : Lookup σ (Option String) := fun s => .ok (net.userDomain s.2) s

/-- Drops a list of trusted domains that has run out. -/
def dropDomains : Lookup σ Unit := do
  let c ← cache
  if c.domains.any (·.isExpired now) then setCache { c with domains := none }

/-- Asks the user's domain which domains it trusts. -/
def askDomains : Lookup σ Bool := do
  match (← userDomain net).filter (· ≠ "") with
  | none => return false
  | some userDomain =>
    match ← fetch settings net now userDomain "" with
    | none => return false
    | some referral =>
      let domains := KeyMap.ofList
        (referral.targets.map fun target => (Text.toLower target.server, KeyMap.empty))
      let expiration ← after now (settings.ttl * domainTtlFactor)
      setCache { (← cache) with domains := some ⟨expiration, domains⟩ }
      return true

/-- Makes sure that a live list of trusted domains is cached. -/
def loadDomains : Lookup σ Bool := do
  dropDomains now
  if (← cache).domains.isSome then return true
  askDomains settings net now

/-- The referral of `\domain\root`, asked of a controller of the domain. -/
def fetchRoot (domain root : String) : Lookup σ (Option Referral) := do
  match ← findController settings net now domain with
  | none => return none
  | some controller =>
    let path := joined domain root
    match ← fetch settings net now controller path with
    | none => return none
    | some referral =>
      return some { referral with
        pathConsumed := referral.pathConsumed - path.length
        link := some rootLink
        key := some rootLink }

def cachedRoot? (c : Cache) (domainKey rootKey : String) : Option RootEntry := do
  (← (← c.domains).value.find? domainKey).find? rootKey

/-- Changes the roots of a cached domain. -/
def updateRoots (domainKey : String) (f : Roots → Roots) : Lookup σ Unit := do
  let c ← cache
  match c.domains with
  | none => return
  | some domains =>
    match domains.value.find? domainKey with
    | none => return
    | some roots =>
      setCache { c with
        domains := some { domains with value := domains.value.insert domainKey (f roots) } }

/-- Drops the entry of a root that has run out. -/
def dropOutdated (domainKey rootKey : String) : Lookup σ Unit := do
  match cachedRoot? (← cache) domainKey rootKey with
  | some (.found entry) =>
    if entry.isExpired now then updateRoots domainKey (·.erase rootKey)
  | _ => return

/-- The entry for what was found of a root. -/
def entryOf : Option Referral → Lookup σ RootEntry
  | some referral => return .found ⟨← after now settings.ttl, some referral⟩
  | none => return .negative

/-- Enters a root that has no entry, also when it cannot be found. -/
def enterRoot (domain root : String) : Lookup σ Unit := do
  let domainKey := Text.toLower domain
  let rootKey := Text.toLower root
  if (cachedRoot? (← cache) domainKey rootKey).isNone then
    let entry ← entryOf settings now (← fetchRoot settings net now domain root)
    updateRoots domainKey (·.insert rootKey entry)

/-- The referral in the entry of a root. One that has run out is asked for anew. -/
def renewRoot (domain root : String) : Lookup σ (Option Referral) := do
  let domainKey := Text.toLower domain
  let rootKey := Text.toLower root
  match cachedRoot? (← cache) domainKey rootKey with
  | some (.found entry) =>
    let live := entry.value.filter fun referral => !referral.isExpired now
    updateRoots domainKey (·.insert rootKey (.found { entry with value := live }))
    match live with
    | some referral => return some referral
    | none =>
      let fetched ← fetchRoot settings net now domain root
      updateRoots domainKey (·.insert rootKey (.found { entry with value := fetched }))
      return fetched
  | _ => return none

/-- Resolves a root of a trusted domain. -/
def resolveRoot (domain root : String) : Lookup σ (Option Referral) := do
  if ((← cache).domains.bind (·.value.find? (Text.toLower domain))).isNone then return none
  dropOutdated now (Text.toLower domain) (Text.toLower root)
  enterRoot settings net now domain root
  renewRoot settings net now domain root

/-- What the trusted domains know of `\domain\root`. -/
def resolveTrusted (domain root : String) : Lookup σ (Option Referral) := do
  if ← loadDomains settings net now then resolveRoot settings net now domain root
  else return none

/-- Whether a key is the path itself or one of the directories above it. -/
def covers (candidate key : String) : Bool :=
  candidate.toList.isPrefixOf key.toList &&
    ((key.toList.drop candidate.length).head?.all (· == separator))

/-- The longest of some keys. -/
def longest (keys : List String) : Option String :=
  keys.foldl (fun best key =>
    match best with
    | some other => if other.utf8ByteSize ≤ key.utf8ByteSize then some key else best
    | none => some key) none

/-- The stand-alone tier, made anew when there is none. -/
def standalone : Lookup σ (Cached (KeyMap Referral)) := do
  match (← cache).standalone with
  | some tier => return tier
  | none => return ⟨← after now settings.ttl, .empty⟩

/-- The most specific stand-alone referral for a key. One that has run out is dropped. -/
def resolveStandalone (key : String) : Lookup σ (Option Referral) := do
  let c ← cache
  if c.standalone.any (·.isExpired now) then setCache { c with standalone := none }
  let tier ← standalone settings now
  setCache { (← cache) with standalone := some tier }
  match longest (tier.value.keys.filter (covers · key)) with
  | none => return none
  | some found =>
    match tier.value.find? found with
    | none => return none
    | some referral =>
      if referral.isExpired now then
        setCache { (← cache) with
          standalone := some { tier with value := tier.value.erase found } }
        return none
      else return some referral

/-- The path `\domain\root[path]` as stand-alone referrals are kept. -/
def standaloneKey (domain root path : String) : String :=
  Text.toLower (joined domain root ++ (if path = rootLink then "" else path))

/-- Resolves `\domain\root`, and behind it a path that only stand-alone referrals see. -/
def resolve (domain root : String) (path : Option String) : Lookup σ (Option Referral) := do
  match ← resolveTrusted settings net now domain root, path with
  | none, some path => resolveStandalone settings now (standaloneKey domain root path)
  | referral, _ => return referral

def isTrustedDomain (domain : String) : Lookup σ Bool := do
  if ← loadDomains settings net now then
    return (← cache).domains.any (·.value.contains (Text.toLower domain))
  else return false

/-- A key without separators at its end, of which the first character is never taken. -/
def trimKey (key : List Char) : List Char :=
  match key with
  | [] => []
  | first :: rest => first :: trimEnd rest

/-- The server and the share that a request path names. -/
def serverAndShare? (path : String) : Option (String × String) :=
  match path.toList with
  | first :: rest =>
    let (server, rest) := cut rest
    let (share, _) := cut rest
    if first = separator ∧ server ≠ [] ∧ share ≠ [] then
      some (String.ofList server, String.ofList share)
    else none
  | [] => none

/-- Keeps a referral that a share returned for a request path. The server counted the consumed
part over the whole path; the kept referral counts it behind the share. -/
def insert (path server share : String) (referral : Referral) : Lookup σ Unit := do
  let key := trimKey (Text.toLower
    (String.ofList (path.toList.take referral.pathConsumed))).toList
  let shareEnd := 1 + server.length + 1 + share.length
  let referral := { referral with
    pathConsumed := referral.pathConsumed - shareEnd
    key := some (String.ofList key) }
  let c ← cache
  if c.standalone.any (fun tier => tier.expiration < now + expiryMargin * 1000) then
    setCache { c with standalone := none }
  let tier ← standalone settings now
  setCache { (← cache) with
    standalone := some { tier with value := tier.value.insert (String.ofList key) referral } }

end Lookup

/-- The settings and the caches. A number out of range in the middle of a change spoils the caches
for good. -/
structure Resolver where
  settings : Settings
  cache : Cache
  poisoned : Bool
  deriving DecidableEq, Repr

namespace Resolver

variable {σ : Type}

def ofConfig (config : Config) : Resolver :=
  ⟨⟨config.dfsDisabled, config.dfsStrictView, config.dfsTtl⟩, .empty, false⟩

/-- What a call gives, with the resolver and the client after it. -/
abbrev Call (σ α : Type) := Except Error α × Resolver × σ

/-- Runs a lookup on the caches unless they are spoilt. -/
def locked (r : Resolver) (client : σ) (lookup : Lookup σ α) : Call σ α :=
  if r.poisoned then (.error (.precondition .cachePoisoned), r, client)
  else
    match lookup (r.cache, client) with
    | .ok a (cache, client) => (.ok a, { r with cache }, client)
    | .error e (cache, client) => (.error e, { r with cache, poisoned := e.isOutOfRange }, client)

/-- Resolves `\domain\root[path]`. -/
def resolve (r : Resolver) (net : Network σ) (now : Moment) (domain root : String)
    (path : Option String) (client : σ) : Call σ (Option Referral) :=
  if r.settings.disabled || Text.eqIgnoringAsciiCase root Lookup.ipcShare then
    (.ok none, r, client)
  else r.locked client (Lookup.resolve r.settings net now domain root path)

/-- Whether a domain is among those that the user's domain trusts. -/
def isTrustedDomain (r : Resolver) (net : Network σ) (now : Moment) (domain : String)
    (client : σ) : Call σ Bool :=
  if r.settings.disabled then (.ok false, r, client)
  else r.locked client (Lookup.isTrustedDomain r.settings net now domain)

/-- The first controller of a domain. This touches no cache. -/
def controller (r : Resolver) (net : Network σ) (now : Moment) (domain : String) (client : σ) :
    Call σ (Option String) :=
  if r.settings.disabled then (.ok none, r, client)
  else
    match Lookup.findController r.settings net now domain (r.cache, client) with
    | .ok found (_, client) => (.ok found, r, client)
    | .error e (_, client) => (.error e, r, client)

/-- Keeps a referral that a share returned for a request path. -/
def insert (r : Resolver) (now : Moment) (path : String) (referral : Referral) :
    Except Error Unit × Resolver :=
  if r.settings.disabled then (.ok (), r)
  else
    match Lookup.serverAndShare? path with
    | none => (.error (.precondition (.notShare path)), r)
    | some (server, share) =>
      let (outcome, r, _) :=
        r.locked () (Lookup.insert r.settings now path server share referral)
      (outcome, r)

/-- Drops the trusted domains and all their roots. -/
def invalidateDomains (r : Resolver) : Except Error Unit × Resolver :=
  let (outcome, r, _) := r.locked () do
    Lookup.setCache { (← Lookup.cache) with domains := none }
  (outcome, r)

end Resolver

end Smb1.Dfs
