import Smb1.Proofs.Dfs.Covering
import Smb1.Proofs.Dfs.Steps

/-! Stand-alone referrals. Of the entries whose keys cover a path, the one with the longest key
decides, whether it has run out or not. One that has is dropped only then; the lookup finds nothing,
and the entries behind it come to light with the next one. -/
namespace Smb1.Dfs

open Lookup (covers longest)

variable {entries : KeyMap Referral} {now : Moment} {path key other : String}
  {referral found : Referral}

/-- A referral is kept under a key that covers a path. -/
structure Leads (entries : KeyMap Referral) (path key : String) (referral : Referral) : Prop where
  found : entries.find? key = some referral
  covers : Covers key path

/-- The entry that decides about a path, whether it has run out or not. -/
def nearest (entries : KeyMap Referral) (path : String) : Option (String × Referral) :=
  (longest (entries.keys.filter (covers · path))).bind fun key =>
    (entries.find? key).map (key, ·)

theorem nearest_spec (entries : KeyMap Referral) (path : String) :
    match nearest entries path with
    | none => ∀ key referral, ¬Leads entries path key referral
    | some (key, referral) => Leads entries path key referral ∧
        ∀ other found, Leads entries path other found → other.length ≤ key.length := by
  have among : ∀ key, key ∈ entries.keys.filter (covers · path) ↔
      ∃ referral, Leads entries path key referral := by
    intro key
    rw [List.mem_filter, KeyMap.mem_keys, covers_iff, KeyMap.contains,
      Option.isSome_iff_exists]
    exact ⟨fun ⟨⟨referral, found⟩, covered⟩ => ⟨referral, found, covered⟩,
      fun ⟨referral, found, covered⟩ => ⟨⟨referral, found⟩, covered⟩⟩
  have best := longest_spec (entries.keys.filter (covers · path))
  unfold nearest
  cases decided : longest (entries.keys.filter (covers · path)) with
  | none =>
    rw [decided] at best
    intro key referral leads
    have member := (among key).mpr ⟨referral, leads⟩
    rw [best] at member
    cases member
  | some key =>
    rw [decided] at best
    obtain ⟨referral, leads⟩ := (among key).mp best.1
    simp only [Option.bind_some, leads.found, Option.map_some]
    exact ⟨leads, fun other found also =>
      also.covers.length_le leads.covers (best.2 other ((among other).mpr ⟨found, also⟩))⟩

/-- What a live tier gives for a path. -/
def answer (entries : KeyMap Referral) (now : Moment) (path : String) : Option Referral :=
  match nearest entries path with
  | some (_, referral) => if referral.isExpired now then none else some referral
  | none => none

/-- What stays of a live tier once a path was looked up. -/
def remaining (entries : KeyMap Referral) (now : Moment) (path : String) : KeyMap Referral :=
  match nearest entries path with
  | some (key, referral) => if referral.isExpired now then entries.erase key else entries
  | none => entries

/-- The referral with the longest key among the live ones that cover a path, and none only where no
live one covers it. -/
def MostSpecific (entries : KeyMap Referral) (now : Moment) (path : String) :
    Option Referral → Prop
  | some referral => now < referral.expiration ∧ ∃ key, Leads entries path key referral ∧
      ∀ other found, Leads entries path other found → now < found.expiration →
        other.length ≤ key.length
  | none => ∀ key referral, Leads entries path key referral → referral.expiration ≤ now

/-- An entry that has run out stands in front of all the live ones that cover a path, of which there
is one. -/
def Hidden (entries : KeyMap Referral) (now : Moment) (path : String) : Prop :=
  (∃ key referral, Leads entries path key referral ∧ now < referral.expiration) ∧
    ∃ key referral, Leads entries path key referral ∧ referral.expiration ≤ now ∧
      ∀ other found, Leads entries path other found → now < found.expiration →
        other.length < key.length

theorem Leads.eq_of_length_eq (leads : Leads entries path key referral)
    (also : Leads entries path other found) (length : key.length = other.length) :
    referral = found := by
  obtain rfl := leads.covers.eq_of_length_eq also.covers length
  exact Option.some.inj (leads.found.symm.trans also.found)

theorem MostSpecific.unique {first second : Option Referral}
    (left : MostSpecific entries now path first) (right : MostSpecific entries now path second) :
    first = second := by
  match first, second with
  | none, none => rfl
  | none, some referral =>
    obtain ⟨live, key, leads, -⟩ := right
    exact absurd live (Nat.not_lt.mpr (left key referral leads))
  | some referral, none =>
    obtain ⟨live, key, leads, -⟩ := left
    exact absurd live (Nat.not_lt.mpr (right key referral leads))
  | some referral, some found =>
    obtain ⟨live, key, leads, most⟩ := left
    obtain ⟨alive, other, also, greatest⟩ := right
    have length := Nat.le_antisymm (greatest key referral leads live) (most other found also alive)
    rw [leads.eq_of_length_eq also length]

theorem isExpired_iff : referral.isExpired now = true ↔ referral.expiration ≤ now :=
  decide_eq_true_iff

theorem mostSpecific_answer (clear : ¬Hidden entries now path) :
    MostSpecific entries now path (answer entries now path) := by
  have best := nearest_spec entries path
  unfold answer
  rcases decided : nearest entries path with _ | ⟨key, referral⟩ <;> rw [decided] at best
  · exact fun key referral leads => absurd leads (best key referral)
  obtain ⟨leads, most⟩ := best
  dsimp only
  by_cases expired : referral.isExpired now
  · rw [if_pos expired]
    have past := isExpired_iff.mp expired
    -- A live entry would be one that the nearest, which has run out, hides.
    intro other found also
    by_contra live
    refine clear ⟨⟨other, found, also, Nat.not_le.mp live⟩, key, referral, leads, past, ?_⟩
    intro other found also alive
    refine Nat.lt_of_le_of_ne (most other found also) fun length => ?_
    rw [also.eq_of_length_eq leads length] at alive
    exact absurd past (Nat.not_le.mpr alive)
  · rw [if_neg expired]
    rw [isExpired_iff] at expired
    exact ⟨Nat.not_le.mp expired, key, leads, fun other found also _ => most other found also⟩

/-- Where an entry that has run out stands in front, nothing is found. -/
theorem answer_of_hidden (hidden : Hidden entries now path) : answer entries now path = none := by
  have best := nearest_spec entries path
  obtain ⟨-, key, referral, leads, -, behind⟩ := hidden
  unfold answer
  rcases decided : nearest entries path with _ | ⟨other, found⟩
  · rfl
  rw [decided] at best
  obtain ⟨also, most⟩ := best
  have expired : found.isExpired now = true := by
    rw [isExpired_iff]
    by_contra live
    have shorter := behind other found also (Nat.not_le.mp live)
    have longer := most key referral leads
    omega
  exact if_pos expired

theorem find?_of_remaining (found : (remaining entries now path).find? key = some referral) :
    entries.find? key = some referral := by
  unfold remaining at found
  split at found
  next dropped gone _ =>
    split at found
    next =>
      rw [KeyMap.find?_erase] at found
      split at found
      · cases found
      · exact found
    next => exact found
  next => exact found

/-- Nothing that is live is dropped. -/
theorem find?_remaining (found : entries.find? key = some referral)
    (live : now < referral.expiration) :
    (remaining entries now path).find? key = some referral := by
  have best := nearest_spec entries path
  unfold remaining
  rcases decided : nearest entries path with _ | ⟨dropped, gone⟩
  · exact found
  rw [decided] at best
  dsimp only
  by_cases expired : gone.isExpired now
  · have other : dropped ≠ key := by
      rintro rfl
      rw [best.1.found] at found
      cases found
      exact absurd live (Nat.not_lt.mpr (isExpired_iff.mp expired))
    rw [if_pos expired, KeyMap.find?_erase, if_neg other]
    exact found
  · rw [if_neg expired]
    exact found

theorem Leads.of_remaining (leads : Leads (remaining entries now path) other key referral) :
    Leads entries other key referral :=
  ⟨find?_of_remaining leads.found, leads.covers⟩

theorem Leads.remaining (leads : Leads entries other key referral)
    (live : now < referral.expiration) : Leads (remaining entries now path) other key referral :=
  ⟨find?_remaining leads.found live, leads.covers⟩

theorem Hidden.of_remaining (hidden : Hidden (remaining entries now path) now other) :
    Hidden entries now other := by
  obtain ⟨⟨key, referral, leads, live⟩, front, gone, also, expired, behind⟩ := hidden
  refine ⟨⟨key, referral, leads.of_remaining, live⟩, front, gone, also.of_remaining, expired, ?_⟩
  exact fun key found leads alive => behind key found (leads.remaining alive) alive

theorem MostSpecific.of_remaining {given : Option Referral}
    (most : MostSpecific (remaining entries now path) now other given) :
    MostSpecific entries now other given := by
  cases given with
  | none =>
    intro key referral leads
    by_contra live
    exact live (most key referral (leads.remaining (Nat.not_le.mp live)))
  | some referral =>
    obtain ⟨live, key, leads, longest⟩ := most
    exact ⟨live, key, leads.of_remaining,
      fun other found also alive => longest other found (also.remaining alive) alive⟩

/-- A path that is looked up again leads to the same place. -/
theorem answer_remaining (clear : ¬Hidden entries now path) :
    answer (remaining entries now path) now path = answer entries now path := by
  have again : MostSpecific (remaining entries now path) now path
      (answer (remaining entries now path) now path) :=
    mostSpecific_answer fun hidden => clear hidden.of_remaining
  exact again.of_remaining.unique (mostSpecific_answer clear)

/-- The referrals of the stand-alone tier. -/
def Cache.referrals (c : Cache) : KeyMap Referral := (c.standalone.map (·.value)).getD .empty

variable {σ : Type}

/-- A tier is there, or can be made. -/
def Ready (settings : Settings) (now : Moment) (c : Cache) : Prop :=
  c.standalone = none → ∃ moment, now.later settings.ttl = .ok moment

theorem standalone_of_ready {settings : Settings} {s : Cache × σ}
    (ready : Ready settings now s.1) :
    ∃ tier, Lookup.standalone settings now s = .ok tier s ∧ tier.value = s.1.referrals := by
  cases there : s.1.standalone with
  | some tier =>
    refine ⟨tier, ?_, by rw [Cache.referrals, there]; rfl⟩
    simp only [Lookup.standalone, Lookup.cache, bind, EStateM.bind, there]
    rfl
  | none =>
    obtain ⟨moment, reached⟩ := ready there
    have made : Lookup.after now settings.ttl s = .ok moment s := by rw [Lookup.after, reached]
    refine ⟨⟨moment, .empty⟩, ?_, by rw [Cache.referrals, there]; rfl⟩
    simp only [Lookup.standalone, Lookup.cache, bind, EStateM.bind, there, made]
    rfl

/-- A tier that has not run out answers from its own entries. -/
theorem resolveStandalone_eq {settings : Settings} {s : Cache × σ}
    (live : s.1.standalone.any (·.isExpired now) = false) (ready : Ready settings now s.1) :
    ∃ cache : Cache, Lookup.resolveStandalone settings now path s =
        .ok (answer s.1.referrals now path) (cache, s.2) ∧
      cache.referrals = remaining s.1.referrals now path := by
  obtain ⟨tier, made, entries⟩ := standalone_of_ready (s := s) ready
  simp only [Lookup.resolveStandalone, bind, EStateM.bind, Lookup.cache, Lookup.setCache, live,
    pure, made, Bool.false_eq_true, if_false]
  rw [← entries]
  unfold answer remaining nearest
  cases longest (tier.value.keys.filter (covers · path)) with
  | none => exact ⟨_, rfl, rfl⟩
  | some key =>
    simp only [Option.bind_some]
    cases tier.value.find? key with
    | none => exact ⟨_, rfl, rfl⟩
    | some referral =>
      simp only [Option.map_some]
      by_cases expired : referral.isExpired now
      · simp only [if_pos expired]
        exact ⟨_, rfl, rfl⟩
      · simp only [if_neg expired]
        exact ⟨_, rfl, rfl⟩

/-- A request that only the stand-alone tier can answer: the trusted domains know nothing of it. -/
structure Reaches (r : Resolver) (net : Network σ) (now : Moment) (domain root : String)
    (client : σ) : Prop where
  enabled : r.settings.disabled = false
  unshared : Text.eqIgnoringAsciiCase root Lookup.ipcShare = false
  sound : r.poisoned = false
  missed : ∃ after, Lookup.resolveTrusted r.settings net now domain root (r.cache, client) =
    .ok none after
  live : r.cache.standalone.any (·.isExpired now) = false
  ready : Ready r.settings now r.cache

theorem resolve_of_reaches {r : Resolver} {net : Network σ} {domain root : String} {client : σ}
    (below : String) (reaches : Reaches r net now domain root client) :
    let key := Lookup.standaloneKey domain root below
    let call := r.resolve net now domain root (some below) client
    call.1 = .ok (answer r.cache.referrals now key) ∧
      call.2.1.cache.referrals = remaining r.cache.referrals now key := by
  obtain ⟨after, missed⟩ := reaches.missed
  have same := Lookup.standalone_of_resolveTrusted _ _ _ missed
  have live := reaches.live
  have ready := reaches.ready
  have stands : after.1.referrals = r.cache.referrals := by rw [Cache.referrals, same]; rfl
  unfold Ready at ready
  rw [← same] at live ready
  obtain ⟨cache, found, left⟩ := resolveStandalone_eq live ready
  rw [stands] at found left
  have done : Lookup.resolve r.settings net now domain root (some below) (r.cache, client) =
      .ok (answer r.cache.referrals now (Lookup.standaloneKey domain root below))
        (cache, after.2) := by
    simp only [Lookup.resolve, bind, EStateM.bind, missed]
    exact found
  simp only [Resolver.resolve, reaches.enabled, reaches.unshared, Bool.or_self,
    Bool.false_eq_true, if_false, Resolver.locked, reaches.sound, done]
  exact ⟨trivial, left⟩

/-- What the stand-alone tier answers is the live referral with the longest key among those that
cover the path, whatever was cached before and whatever the network says, and the same request finds
it again. The one exception is an entry that has run out and stands in front of the live ones: it
makes the lookup find nothing. -/
theorem resolve_mostSpecific {r : Resolver} {net : Network σ} {domain root : String} {client : σ}
    (below : String) (reaches : Reaches r net now domain root client) :
    let key := Lookup.standaloneKey domain root below
    let call := r.resolve net now domain root (some below) client
    ∃ found, call.1 = .ok found ∧
      (¬Hidden r.cache.referrals now key →
        MostSpecific r.cache.referrals now key found ∧
          ∀ (again : Network σ) (client' : σ), Reaches call.2.1 again now domain root client' →
            (call.2.1.resolve again now domain root (some below) client').1 = .ok found) ∧
      (Hidden r.cache.referrals now key → found = none) := by
  obtain ⟨answered, left⟩ := resolve_of_reaches below reaches
  refine ⟨_, answered, fun clear => ⟨mostSpecific_answer clear, ?_⟩, answer_of_hidden⟩
  intro again client' reaches'
  rw [(resolve_of_reaches below reaches').1, left, answer_remaining clear]

/-- A network in which nobody answers, asked for a user without a domain. -/
def silent : Network Unit where
  userDomain _ := none
  ask _ _ _ client := (.error (.io .endOfStream), client)

/-- Whether a resolver knows no trusted domains and has a stand-alone tier that has not run out. -/
def standsAlone (r : Resolver) (now : Moment) : Bool :=
  !r.settings.disabled && !r.poisoned && r.cache.domains.isNone &&
    r.cache.standalone.any (!·.isExpired now)

theorem reaches_silent {r : Resolver} {domain root : String} (alone : standsAlone r now = true)
    (unshared : Text.eqIgnoringAsciiCase root Lookup.ipcShare = false) :
    Reaches r silent now domain root () := by
  obtain ⟨⟨disabled, strictView, ttl⟩, ⟨domains, standalone⟩, poisoned⟩ := r
  simp only [standsAlone, Bool.and_eq_true, Bool.not_eq_true', Option.isNone_iff_eq_none] at alone
  obtain ⟨⟨⟨rfl, rfl⟩, rfl⟩, live⟩ := alone
  cases standalone with
  | none => cases live
  | some tier =>
    exact ⟨rfl, unshared, rfl, ⟨_, rfl⟩, by simpa using live, nofun⟩

/-- A referral to a share of a server. -/
def leading (server : String) (pathConsumed : Nat) (expiration : Moment) : Referral where
  targets := [⟨server, "data", ""⟩]
  current := 0
  pathConsumed
  ttl := 0
  expiration
  resolveHashes := false
  flags := ⟨0⟩
  link := none
  key := none
  current_lt := Nat.one_pos

/-- A directory leads to one server for five minutes, and one inside it to another for a second. -/
def nested : Resolver :=
  let outer := (Resolver.ofConfig (Config.standard 0 "")).insert 0 "\\d\\r\\a"
    (leading "fs1" 6 300000)
  (outer.2.insert 0 "\\d\\r\\a\\b" (leading "fs2" 8 1000)).2

/-- The server that a request to `nested` and what it leaves is led to. -/
def serverOf (r : Resolver) (now : Moment) : Option String :=
  ((r.resolve silent now "d" "r" (some "\\a\\b\\c") ()).1.toOption.bind id).map (·.server)

theorem resolve_mostSpecific_nested :
    let key := Lookup.standaloneKey "d" "r" "\\a\\b\\c"
    Reaches nested silent 500 "d" "r" () ∧ ¬Hidden nested.cache.referrals 500 key ∧
      ∃ found, (nested.resolve silent 500 "d" "r" (some "\\a\\b\\c") ()).1 = .ok (some found) ∧
        MostSpecific nested.cache.referrals 500 key (some found) ∧ found.server = "fs2" := by
  have reaches : Reaches nested silent 500 "d" "r" () :=
    reaches_silent (by decide +kernel) (by decide +kernel)
  have inner : serverOf nested 500 = some "fs2" := by decide +kernel
  obtain ⟨found, answered, clear, hidden⟩ := resolve_mostSpecific "\\a\\b\\c" reaches
  unfold serverOf at inner
  rw [answered] at inner
  obtain ⟨referral, rfl, server⟩ := Option.map_eq_some_iff.mp inner
  have visible := fun h => Option.some_ne_none referral (hidden h)
  exact ⟨reaches, visible, referral, answered, (clear visible).1, server⟩

/-- When the inner directory has run out, a request that both cover finds nothing, and then the
outer one. -/
theorem resolve_nested :
    let first := nested.resolve silent 2000 "d" "r" (some "\\a\\b\\c") ()
    let second := first.2.1.resolve silent 2000 "d" "r" (some "\\a\\b\\c") ()
    Reaches nested silent 2000 "d" "r" () ∧ Reaches first.2.1 silent 2000 "d" "r" () ∧
      first.1 = .ok none ∧ second.1 ≠ first.1 ∧
      ¬MostSpecific nested.cache.referrals 2000 (Lookup.standaloneKey "d" "r" "\\a\\b\\c")
        none := by
  have first : (nested.resolve silent 2000 "d" "r" (some "\\a\\b\\c") ()).1 = .ok none := by
    decide +kernel
  have outer : (nested.cache.referrals.find? "\\d\\r\\a").any (2000 < ·.expiration) := by
    decide +kernel
  have covered : covers "\\d\\r\\a" (Lookup.standaloneKey "d" "r" "\\a\\b\\c") := by
    decide +kernel
  refine ⟨reaches_silent (by decide +kernel) (by decide +kernel),
    reaches_silent (by decide +kernel) (by decide +kernel), first, ?_, fun nothing => ?_⟩
  · rw [first]
    decide +kernel
  · obtain ⟨referral, found, live⟩ := (Option.any_eq_true ..).mp outer
    have expired := nothing "\\d\\r\\a" referral ⟨found, covers_iff.mp covered⟩
    exact absurd expired (Nat.not_le.mpr (of_decide_eq_true live))

end Smb1.Dfs
