import Mathlib.Tactic.Common
import Smb1.Dfs.Operation

/-! What a lookup among the trusted domains asks, and what becomes of the answers. The list of
domains is asked for when there is no live one, then a root of a listed domain when there is no live
entry of it or the referral in it has run out; a root is asked of a controller, which is asked for
first. Each relation has a constructor for every course that its lookup can take, and the lookup
takes one of them on every network. -/
namespace Smb1.Dfs

open Transaction
open Lookup (joined rootLink cachedRoot?)

variable {σ : Type}

/-- What an answer of the network amounts to. -/
def Inquiry.verdict (settings : Settings) (now : Moment) (q : Inquiry) :
    Except Error (Option Referral) :=
  match q.answer with
  | .ok response => .ok (Referral.ofResponse? response now)
  | .error e => if settings.strictView && e.isAuth then .error e else .ok none

/-- A referral to a root as it is kept in the root's entry. -/
def Referral.atRoot (domain root : String) (r : Referral) : Referral :=
  { r with
    pathConsumed := r.pathConsumed - (joined domain root).length
    link := some rootLink
    key := some rootLink }

variable (settings : Settings) (now : Moment)

/-- Asking for the referral of a root: for a controller of its domain, and then that one. -/
inductive AsksRoot (domain root : String) : List Inquiry → Except Error (Option Referral) → Prop
  | refused {q : Inquiry} {e : Error} : q.path = "\\" ++ domain →
      q.verdict settings now = .error e → AsksRoot domain root [q] (.error e)
  | unled {q : Inquiry} : q.path = "\\" ++ domain →
      q.verdict settings now = .ok none → AsksRoot domain root [q] (.ok none)
  | led {q next : Inquiry} {controller : Referral} : q.path = "\\" ++ domain →
      q.verdict settings now = .ok (some controller) → next.server = controller.server →
      next.path = joined domain root →
      AsksRoot domain root [q, next]
        ((next.verdict settings now).map (·.map (·.atRoot domain root)))

/-- The list of domains before and after it was made sure of, for a user's domain. -/
inductive Lists (user : Option String) : Option (Cached (KeyMap Roots)) → List Inquiry →
    Except Error Bool → Option (Cached (KeyMap Roots)) → Prop
  | live {tier : Cached (KeyMap Roots)} : now < tier.expiration →
      Lists user (some tier) [] (.ok true) (some tier)
  | userless {before : Option (Cached (KeyMap Roots))} :
      (∀ tier, before = some tier → tier.expiration ≤ now) → user.filter (· ≠ "") = none →
      Lists user before [] (.ok false) none
  | refused {before : Option (Cached (KeyMap Roots))} {q : Inquiry} {e : Error} :
      (∀ tier, before = some tier → tier.expiration ≤ now) → q.path = "" →
      q.verdict settings now = .error e → Lists user before [q] (.error e) none
  | unanswered {before : Option (Cached (KeyMap Roots))} {q : Inquiry} :
      (∀ tier, before = some tier → tier.expiration ≤ now) → q.path = "" →
      q.verdict settings now = .ok none → Lists user before [q] (.ok false) none
  | late {before : Option (Cached (KeyMap Roots))} {q : Inquiry} {list : Referral} {e : Error} :
      (∀ tier, before = some tier → tier.expiration ≤ now) → q.path = "" →
      q.verdict settings now = .ok (some list) →
      now.later (settings.ttl * Lookup.domainTtlFactor) = .error e →
      Lists user before [q] (.error e) none
  | loaded {before : Option (Cached (KeyMap Roots))} {q : Inquiry} {list : Referral}
      {expiration : Moment} :
      (∀ tier, before = some tier → tier.expiration ≤ now) → q.path = "" →
      q.verdict settings now = .ok (some list) →
      now.later (settings.ttl * Lookup.domainTtlFactor) = .ok expiration →
      Lists user before [q] (.ok true) (some ⟨expiration, .ofList
        (list.targets.map fun target => (Text.toLower target.server, KeyMap.empty))⟩)

variable {settings now} in
theorem Lists.exists_of_true {user : Option String} {before after : Option (Cached (KeyMap Roots))}
    {asked : List Inquiry} (lists : Lists settings now user before asked (.ok true) after) :
    ∃ tier, after = some tier := by
  cases lists <;> exact ⟨_, rfl⟩

/-- What is left of a root's entry at a time. -/
def standing (entry : Option RootEntry) : Option RootEntry :=
  entry.filter fun
    | .negative => true
    | .found found => !found.isExpired now

/-- Entering a root that has no entry. -/
inductive Enters (domain root : String) : Option RootEntry → List Inquiry →
    Except Error RootEntry → Prop
  | there {entry : RootEntry} : Enters domain root (some entry) [] (.ok entry)
  | refused {asked : List Inquiry} {e : Error} :
      AsksRoot settings now domain root asked (.error e) →
      Enters domain root none asked (.error e)
  | negative {asked : List Inquiry} : AsksRoot settings now domain root asked (.ok none) →
      Enters domain root none asked (.ok .negative)
  | late {asked : List Inquiry} {referral : Referral} {e : Error} :
      AsksRoot settings now domain root asked (.ok (some referral)) →
      now.later settings.ttl = .error e → Enters domain root none asked (.error e)
  | found {asked : List Inquiry} {referral : Referral} {expiration : Moment} :
      AsksRoot settings now domain root asked (.ok (some referral)) →
      now.later settings.ttl = .ok expiration →
      Enters domain root none asked (.ok (.found ⟨expiration, some referral⟩))

/-- Taking the referral out of a root's entry, which is asked for anew when it has run out. -/
inductive Renews (domain root : String) : RootEntry → List Inquiry →
    Except Error (Option Referral) → RootEntry → Prop
  | negative : Renews domain root .negative [] (.ok none) .negative
  | live {expiration : Moment} {referral : Referral} : now < referral.expiration →
      Renews domain root (.found ⟨expiration, some referral⟩) [] (.ok (some referral))
        (.found ⟨expiration, some referral⟩)
  | renewed {expiration : Moment} {value fetched : Option Referral} {asked : List Inquiry} :
      (∀ referral, value = some referral → referral.expiration ≤ now) →
      AsksRoot settings now domain root asked (.ok fetched) →
      Renews domain root (.found ⟨expiration, value⟩) asked (.ok fetched)
        (.found ⟨expiration, fetched⟩)
  | refused {expiration : Moment} {value : Option Referral} {asked : List Inquiry} {e : Error} :
      (∀ referral, value = some referral → referral.expiration ≤ now) →
      AsksRoot settings now domain root asked (.error e) →
      Renews domain root (.found ⟨expiration, value⟩) asked (.error e) (.found ⟨expiration, none⟩)

/-- The entry of a root before and after it was resolved. -/
inductive Resolves (domain root : String) : Option RootEntry → List Inquiry →
    Except Error (Option Referral) → Option RootEntry → Prop
  | unentered {before : Option RootEntry} {asked : List Inquiry} {e : Error} :
      Enters settings now domain root (standing now before) asked (.error e) →
      Resolves domain root before asked (.error e) none
  | entered {before : Option RootEntry} {first rest : List Inquiry} {entry after : RootEntry}
      {outcome : Except Error (Option Referral)} :
      Enters settings now domain root (standing now before) first (.ok entry) →
      Renews settings now domain root entry rest outcome after →
      Resolves domain root before (first ++ rest) outcome (some after)

/-- The caches with other roots in a domain. -/
def Cache.putRoots (c : Cache) (tier : Cached (KeyMap Roots)) (domainKey : String)
    (roots : Roots) : Cache :=
  { c with domains := some { tier with value := tier.value.insert domainKey roots } }

/-- The caches before and after a look at what the trusted domains know of a root. -/
inductive Trusts (user : Option String) (domain root : String) (c : Cache) :
    List Inquiry → Except Error (Option Referral) → Cache → Prop
  | failed {asked : List Inquiry} {e : Error} {domains : Option (Cached (KeyMap Roots))} :
      Lists settings now user c.domains asked (.error e) domains →
      Trusts user domain root c asked (.error e) { c with domains }
  | unknown {asked : List Inquiry} {domains : Option (Cached (KeyMap Roots))} :
      Lists settings now user c.domains asked (.ok false) domains →
      Trusts user domain root c asked (.ok none) { c with domains }
  | unlisted {asked : List Inquiry} {tier : Cached (KeyMap Roots)} :
      Lists settings now user c.domains asked (.ok true) (some tier) →
      tier.value.find? (Text.toLower domain) = none →
      Trusts user domain root c asked (.ok none) { c with domains := some tier }
  | listed {first rest : List Inquiry} {tier : Cached (KeyMap Roots)} {roots after : Roots}
      {outcome : Except Error (Option Referral)} :
      Lists settings now user c.domains first (.ok true) (some tier) →
      tier.value.find? (Text.toLower domain) = some roots →
      Resolves settings now domain root (roots.find? (Text.toLower root)) rest outcome
        (after.find? (Text.toLower root)) →
      (∀ other, other ≠ Text.toLower root → after.find? other = roots.find? other) →
      Trusts user domain root c (first ++ rest) outcome
        (c.putRoots tier (Text.toLower domain) after)

namespace Lookup

section

variable {τ α β : Type} {step : EStateM Error τ α} {next : α → EStateM Error τ β} {s s' : τ}

/-- A step that ends in a state with an outcome. -/
def ending (outcome : Except Error α) (s : τ) : EStateM.Result Error τ α :=
  match outcome with
  | .ok a => .ok a s
  | .error e => .error e s

theorem bind_of_ok {a : α} (done : step s = .ok a s') : (step >>= next) s = next a s' := by
  simp only [bind, EStateM.bind, done]

theorem bind_of_error {e : Error} (failed : step s = .error e s') :
    (step >>= next) s = .error e s' := by
  simp only [bind, EStateM.bind, failed]

end

variable (net : Network σ)

theorem fetch_recorded (server path : String) (c : Cache) (client : σ) (record : List Inquiry) :
    ∃ q client', q.server = server ∧ q.path = path ∧
      fetch settings net.recorded now server path (c, client, record) =
        ending (q.verdict settings now) (c, client', record ++ [q]) := by
  rcases asked : net.ask server path ReferralRequest.standardMaxReferralLevel client
    with ⟨answer, client'⟩
  refine ⟨⟨server, path, ReferralRequest.standardMaxReferralLevel, answer⟩, client', rfl, rfl, ?_⟩
  unfold fetch Inquiry.verdict
  simp only [Network.recorded, asked]
  cases answer with
  | ok response => rfl
  | error e =>
    by_cases strict : settings.strictView && e.isAuth
    · simp only [strict, if_true]
      rfl
    · simp only [strict]
      rfl

theorem findController_recorded (domain : String) (c : Cache) (client : σ)
    (record : List Inquiry) :
    ∃ q client', q.path = "\\" ++ domain ∧
      findController settings net.recorded now domain (c, client, record) =
        ending ((q.verdict settings now).map (·.map Referral.server))
          (c, client', record ++ [q]) := by
  obtain ⟨q, client', -, path, fetched⟩ :=
    fetch_recorded settings now net domain ("\\" ++ domain) c client record
  refine ⟨q, client', path, ?_⟩
  cases answered : q.verdict settings now with
  | error e =>
    rw [answered] at fetched
    exact bind_of_error fetched
  | ok found =>
    rw [answered] at fetched
    exact bind_of_ok fetched

theorem fetchRoot_recorded (domain root : String) (c : Cache) (client : σ)
    (record : List Inquiry) :
    ∃ asked outcome client', AsksRoot settings now domain root asked outcome ∧
      fetchRoot settings net.recorded now domain root (c, client, record) =
        ending outcome (c, client', record ++ asked) := by
  obtain ⟨q, client', path, first⟩ :=
    findController_recorded settings now net domain c client record
  cases answered : q.verdict settings now with
  | error e =>
    rw [answered] at first
    exact ⟨_, _, _, .refused path answered, bind_of_error first⟩
  | ok found =>
    rw [answered] at first
    cases found with
    | none => exact ⟨_, _, _, .unled path answered, bind_of_ok first⟩
    | some controller =>
      obtain ⟨next, client'', server, path', second⟩ :=
        fetch_recorded settings now net controller.server (joined domain root) c client'
          (record ++ [q])
      refine ⟨[q, next], _, client'', .led path answered server path', ?_⟩
      rw [List.append_assoc, List.cons_append, List.nil_append] at second
      refine (bind_of_ok first).trans ?_
      cases answered' : next.verdict settings now with
      | error e =>
        rw [answered'] at second
        exact bind_of_error second
      | ok found =>
        rw [answered'] at second
        refine (bind_of_ok second).trans ?_
        cases found <;> rfl

theorem isExpired_eq_false {α : Type} {tier : Cached α} :
    tier.isExpired now = false ↔ now < tier.expiration := by
  rw [Cached.isExpired, decide_eq_false_iff_not, Nat.not_le]

theorem after_eq (seconds : Nat) (s : Cache × σ) :
    after now seconds s = ending (now.later seconds) s := by
  unfold after
  cases now.later seconds <;> rfl

theorem entryOf_some (referral : Referral) (s : Cache × σ) :
    entryOf settings now (some referral) s = ending ((now.later settings.ttl).map fun expiration =>
      .found ⟨expiration, some referral⟩) s := by
  have reached := after_eq now settings.ttl s
  cases clock : now.later settings.ttl with
  | error e =>
    rw [clock] at reached
    exact bind_of_error reached
  | ok expiration =>
    rw [clock] at reached
    exact bind_of_ok reached

theorem dropDomains_eq (c : Cache) (s : σ) :
    dropDomains now (c, s) =
      .ok () ({ c with domains := c.domains.filter (!·.isExpired now) }, s) := by
  obtain ⟨domains, standalone⟩ := c
  cases domains with
  | none => rfl
  | some tier =>
    cases past : tier.isExpired now <;>
      simp [dropDomains, bind, EStateM.bind, cache, setCache, past, pure, EStateM.pure,
        Option.filter]

/-- Asking for the list of domains when there is none that is live. -/
theorem askDomains_recorded (before : Option (Cached (KeyMap Roots))) (c : Cache) (client : σ)
    (record : List Inquiry) (gone : ∀ tier, before = some tier → tier.expiration ≤ now)
    (absent : c.domains = none) :
    ∃ asked outcome domains client',
      Lists settings now (net.userDomain client) before asked outcome domains ∧
      askDomains settings net.recorded now (c, client, record) =
        ending outcome ({ c with domains }, client', record ++ asked) := by
  have kept : { c with domains := none } = c := by rw [← absent]
  have user : userDomain net.recorded (c, client, record) =
    .ok (net.userDomain client) (c, client, record) := rfl
  cases named : (net.userDomain client).filter (· ≠ "") with
  | none =>
    refine ⟨[], .ok false, none, client, .userless gone named, ?_⟩
    refine (bind_of_ok user).trans ?_
    rw [named, kept, List.append_nil]
    rfl
  | some domain =>
    obtain ⟨q, client', -, path, fetched⟩ :=
      fetch_recorded settings now net domain "" c client record
    cases answered : q.verdict settings now with
    | error e =>
      refine ⟨[q], .error e, none, client', .refused gone path answered, ?_⟩
      refine (bind_of_ok user).trans ?_
      rw [answered] at fetched
      rw [named, kept]
      exact bind_of_error fetched
    | ok found =>
      rw [answered] at fetched
      cases found with
      | none =>
        refine ⟨[q], .ok false, none, client', .unanswered gone path answered, ?_⟩
        refine (bind_of_ok user).trans ?_
        rw [named, kept]
        exact bind_of_ok fetched
      | some list =>
        have reached := after_eq now (settings.ttl * domainTtlFactor) (c, client', record ++ [q])
        cases clock : now.later (settings.ttl * domainTtlFactor) with
        | error e =>
          refine ⟨[q], .error e, none, client', .late gone path answered clock, ?_⟩
          rw [clock] at reached
          refine (bind_of_ok user).trans ?_
          rw [named, kept]
          exact (bind_of_ok fetched).trans (bind_of_error reached)
        | ok expiration =>
          refine ⟨[q], .ok true, _, client', .loaded gone path answered clock, ?_⟩
          rw [clock] at reached
          refine (bind_of_ok user).trans ?_
          rw [named]
          exact (bind_of_ok fetched).trans (bind_of_ok reached)

theorem loadDomains_recorded (c : Cache) (client : σ) (record : List Inquiry) :
    ∃ asked outcome domains client',
      Lists settings now (net.userDomain client) c.domains asked outcome domains ∧
      loadDomains settings net.recorded now (c, client, record) =
        ending outcome ({ c with domains }, client', record ++ asked) := by
  have dropped := dropDomains_eq now c (client, record)
  have decided := Option.eq_none_or_eq_some (c.domains.filter (!·.isExpired now))
  obtain absent | ⟨tier, there⟩ := decided
  · have gone : ∀ tier, c.domains = some tier → tier.expiration ≤ now := by
      rintro tier there
      rw [there] at absent
      simpa [Option.filter, Cached.isExpired] using absent
    obtain ⟨asked, outcome, domains, client', lists, done⟩ :=
      askDomains_recorded settings now net c.domains { c with domains := none } client record gone
        rfl
    refine ⟨asked, outcome, domains, client', lists, ?_⟩
    rw [absent] at dropped
    exact (bind_of_ok dropped).trans done
  · obtain ⟨was, live⟩ := Option.filter_eq_some_iff.mp there
    refine ⟨[], .ok true, some tier, client, ?_, ?_⟩
    · rw [was]
      exact .live ((isExpired_eq_false now).mp (by simpa using live))
    · rw [there] at dropped
      rw [List.append_nil]
      exact bind_of_ok dropped

variable {c : Cache} {tier : Cached (KeyMap Roots)} {domainKey rootKey : String} {roots : Roots}

theorem putRoots_of_find? (there : c.domains = some tier)
    (listed : tier.value.find? domainKey = some roots) : c.putRoots tier domainKey roots = c := by
  obtain ⟨domains, standalone⟩ := c
  subst there
  simp only [Cache.putRoots, KeyMap.insert_of_find? listed]

theorem cachedRoot?_putRoots (c : Cache) (tier : Cached (KeyMap Roots))
    (domainKey other rootKey : String) (roots : Roots) :
    cachedRoot? (c.putRoots tier domainKey roots) other rootKey =
      if domainKey = other then roots.find? rootKey
      else (tier.value.find? other).bind (·.find? rootKey) := by
  simp only [cachedRoot?, Cache.putRoots, bind, Option.bind_some, KeyMap.find?_insert]
  split <;> rfl

theorem updateRoots_putRoots (c : Cache) (tier : Cached (KeyMap Roots)) (domainKey : String)
    (roots : Roots) (f : Roots → Roots) (s : σ) :
    updateRoots domainKey f (c.putRoots tier domainKey roots, s) =
      .ok () (c.putRoots tier domainKey (f roots), s) := by
  simp [updateRoots, bind, EStateM.bind, cache, setCache, Cache.putRoots]

theorem cachedRoot?_putRoots_self (c : Cache) (tier : Cached (KeyMap Roots))
    (domainKey rootKey : String) (roots : Roots) :
    cachedRoot? (c.putRoots tier domainKey roots) domainKey rootKey = roots.find? rootKey := by
  rw [cachedRoot?_putRoots, if_pos rfl]

/-- The roots of a domain of which one entry has changed. -/
structure Alters (rootKey : String) (roots roots' : Roots) (entry : Option RootEntry) : Prop where
  altered : roots'.find? rootKey = entry
  others : ∀ other, other ≠ rootKey → roots'.find? other = roots.find? other

theorem Alters.refl {entry : Option RootEntry} (there : roots.find? rootKey = entry) :
    Alters rootKey roots roots entry := ⟨there, fun _ _ => rfl⟩

theorem Alters.trans {roots' roots'' : Roots} {entry entry' : Option RootEntry}
    (first : Alters rootKey roots roots' entry) (second : Alters rootKey roots' roots'' entry') :
    Alters rootKey roots roots'' entry' :=
  ⟨second.altered, fun other differs =>
    (second.others other differs).trans (first.others other differs)⟩

theorem alters_insert (rootKey : String) (roots : Roots) (entry : RootEntry) :
    Alters rootKey roots (roots.insert rootKey entry) (some entry) :=
  ⟨by rw [KeyMap.find?_insert, if_pos rfl], fun other differs => by
    rw [KeyMap.find?_insert, if_neg differs.symm]⟩

theorem alters_erase (rootKey : String) (roots : Roots) :
    Alters rootKey roots (roots.erase rootKey) none :=
  ⟨by rw [KeyMap.find?_erase, if_pos rfl], fun other differs => by
    rw [KeyMap.find?_erase, if_neg differs.symm]⟩

theorem dropOutdated_putRoots (c : Cache) (tier : Cached (KeyMap Roots))
    (domainKey rootKey : String) (roots : Roots) (s : σ) :
    ∃ roots', Alters rootKey roots roots' (standing now (roots.find? rootKey)) ∧
      dropOutdated now domainKey rootKey (c.putRoots tier domainKey roots, s) =
        .ok () (c.putRoots tier domainKey roots', s) := by
  have entry := cachedRoot?_putRoots_self c tier domainKey rootKey roots
  simp only [dropOutdated, bind, EStateM.bind, cache, entry]
  cases there : roots.find? rootKey with
  | none => exact ⟨roots, .refl there, rfl⟩
  | some entry =>
    cases entry with
    | negative => exact ⟨roots, .refl there, rfl⟩
    | found entry =>
      cases past : entry.isExpired now with
      | false =>
        simp only [standing, Option.filter, past, Bool.not_false]
        exact ⟨roots, .refl there, rfl⟩
      | true =>
        simp only [standing, Option.filter, past, Bool.not_true]
        exact ⟨roots.erase rootKey, alters_erase rootKey roots, updateRoots_putRoots ..⟩

variable (domain root : String)

theorem enterRoot_putRoots (c : Cache) (tier : Cached (KeyMap Roots)) (roots : Roots)
    (client : σ) (record : List Inquiry) :
    ∃ asked outcome client' roots',
      Enters settings now domain root (roots.find? (Text.toLower root)) asked outcome ∧
      Alters (Text.toLower root) roots roots' outcome.toOption ∧
      enterRoot settings net.recorded now domain root
          (c.putRoots tier (Text.toLower domain) roots, client, record) =
        ending (outcome.map fun _ => ())
          (c.putRoots tier (Text.toLower domain) roots', client', record ++ asked) := by
  have entry := cachedRoot?_putRoots_self c tier (Text.toLower domain) (Text.toLower root) roots
  cases there : roots.find? (Text.toLower root) with
  | some entry' =>
    refine ⟨[], .ok entry', client, roots, .there, .refl there, ?_⟩
    simp only [enterRoot, bind, EStateM.bind, cache, entry, there, List.append_nil]
    rfl
  | none =>
    obtain ⟨asked, outcome, client', asks, fetched⟩ := fetchRoot_recorded settings now net domain
      root (c.putRoots tier (Text.toLower domain) roots) client record
    have starts : enterRoot settings net.recorded now domain root
        (c.putRoots tier (Text.toLower domain) roots, client, record) =
        (fetchRoot settings net.recorded now domain root >>= fun found =>
          entryOf settings now found >>= fun entry =>
          updateRoots (Text.toLower domain) (·.insert (Text.toLower root) entry))
          (c.putRoots tier (Text.toLower domain) roots, client, record) := by
      simp only [enterRoot, bind, EStateM.bind, cache, entry, there]
      rfl
    rw [starts]
    cases outcome with
    | error e =>
      exact ⟨asked, .error e, client', roots, .refused asks, .refl there, bind_of_error fetched⟩
    | ok found =>
      cases found with
      | none =>
        exact ⟨asked, .ok .negative, client', _, .negative asks, alters_insert ..,
          (bind_of_ok fetched).trans (updateRoots_putRoots ..)⟩
      | some referral =>
        have reached := entryOf_some settings now referral
          (c.putRoots tier (Text.toLower domain) roots, client', record ++ asked)
        cases clock : now.later settings.ttl with
        | error e =>
          rw [clock] at reached
          exact ⟨asked, .error e, client', roots, .late asks clock, .refl there,
            (bind_of_ok fetched).trans (bind_of_error reached)⟩
        | ok expiration =>
          rw [clock] at reached
          exact ⟨asked, .ok (.found ⟨expiration, some referral⟩), client', _, .found asks clock,
            alters_insert ..,
            (bind_of_ok fetched).trans ((bind_of_ok reached).trans (updateRoots_putRoots ..))⟩

theorem renewRoot_putRoots (c : Cache) (tier : Cached (KeyMap Roots)) (roots : Roots)
    (client : σ) (record : List Inquiry) {entry : RootEntry}
    (there : roots.find? (Text.toLower root) = some entry) :
    ∃ asked outcome after client' roots',
      Renews settings now domain root entry asked outcome after ∧
      Alters (Text.toLower root) roots roots' (some after) ∧
      renewRoot settings net.recorded now domain root
          (c.putRoots tier (Text.toLower domain) roots, client, record) =
        ending outcome
          (c.putRoots tier (Text.toLower domain) roots', client', record ++ asked) := by
  have held := cachedRoot?_putRoots_self c tier (Text.toLower domain) (Text.toLower root) roots
  rw [there] at held
  cases entry with
  | negative =>
    refine ⟨[], .ok none, _, client, roots, .negative, .refl there, ?_⟩
    simp only [renewRoot, bind, EStateM.bind, cache, held, List.append_nil]
    rfl
  | found entry =>
    obtain ⟨expiration, value⟩ := entry
    cases kept : value.filter fun referral => !referral.isExpired now with
    | some referral =>
      obtain ⟨rfl, alive⟩ := Option.filter_eq_some_iff.mp kept
      have live : now < referral.expiration := by simpa [Referral.isExpired] using alive
      refine ⟨[], .ok (some referral), _, client, _, .live live, alters_insert .., ?_⟩
      simp only [renewRoot, bind, EStateM.bind, cache, held, kept, updateRoots_putRoots,
        List.append_nil]
      rfl
    | none =>
      have past : ∀ referral, value = some referral → referral.expiration ≤ now := by
        rintro referral rfl
        simpa [Option.filter, Referral.isExpired] using kept
      obtain ⟨asked, outcome, client', asks, fetched⟩ := fetchRoot_recorded settings now net domain
        root (c.putRoots tier (Text.toLower domain)
          (roots.insert (Text.toLower root) (.found ⟨expiration, none⟩))) client record
      have starts : renewRoot settings net.recorded now domain root
          (c.putRoots tier (Text.toLower domain) roots, client, record) =
          (fetchRoot settings net.recorded now domain root >>= fun fetched =>
            updateRoots (Text.toLower domain)
              (·.insert (Text.toLower root) (.found ⟨expiration, fetched⟩)) >>= fun _ =>
            pure fetched)
          (c.putRoots tier (Text.toLower domain)
            (roots.insert (Text.toLower root) (.found ⟨expiration, none⟩)), client, record) := by
        simp only [renewRoot, bind, EStateM.bind, cache, held, kept, updateRoots_putRoots]
      rw [starts]
      cases outcome with
      | error e =>
        exact ⟨asked, .error e, _, client', _, .refused past asks, alters_insert ..,
          bind_of_error fetched⟩
      | ok found =>
        exact ⟨asked, .ok found, _, client', _, .renewed past asks, alters_insert ..,
          (bind_of_ok fetched).trans (by
            refine (bind_of_ok (updateRoots_putRoots ..)).trans ?_
            rw [KeyMap.insert_insert]
            rfl)⟩

theorem resolveRoot_putRoots (c : Cache) (tier : Cached (KeyMap Roots)) (roots : Roots)
    (client : σ) (record : List Inquiry) :
    ∃ asked outcome client' roots' after,
      Resolves settings now domain root (roots.find? (Text.toLower root)) asked outcome after ∧
      Alters (Text.toLower root) roots roots' after ∧
      resolveRoot settings net.recorded now domain root
          (c.putRoots tier (Text.toLower domain) roots, client, record) =
        ending outcome
          (c.putRoots tier (Text.toLower domain) roots', client', record ++ asked) := by
  have starts : resolveRoot settings net.recorded now domain root
      (c.putRoots tier (Text.toLower domain) roots, client, record) =
      (dropOutdated now (Text.toLower domain) (Text.toLower root) >>= fun _ =>
        enterRoot settings net.recorded now domain root >>= fun _ =>
        renewRoot settings net.recorded now domain root)
        (c.putRoots tier (Text.toLower domain) roots, client, record) := by
    simp only [resolveRoot, bind, EStateM.bind, cache, Cache.putRoots, Option.bind_some,
      KeyMap.find?_insert, if_true]
    rfl
  obtain ⟨left, dropped, drops⟩ := dropOutdated_putRoots now c tier (Text.toLower domain)
    (Text.toLower root) roots (client, record)
  obtain ⟨first, entry, client', within, enters, entered, goes⟩ :=
    enterRoot_putRoots settings now net domain root c tier left client record
  rw [dropped.altered] at enters
  rw [starts]
  cases entry with
  | error e =>
    exact ⟨first, .error e, client', within, none, .unentered enters, dropped.trans entered,
      (bind_of_ok drops).trans (bind_of_error goes)⟩
  | ok entry =>
    obtain ⟨rest, outcome, after, client'', roots', renews, renewed, ends⟩ :=
      renewRoot_putRoots settings now net domain root c tier within client' (record ++ first)
        entered.altered
    rw [List.append_assoc] at ends
    exact ⟨first ++ rest, outcome, client'', roots', some after, .entered enters renews,
      (dropped.trans entered).trans renewed,
      (bind_of_ok drops).trans ((bind_of_ok goes).trans ends)⟩

/-- What the trusted domains know of a root is found out in one of the ways that there are. -/
theorem resolveTrusted_recorded (domain root : String) (c : Cache) (client : σ)
    (record : List Inquiry) :
    ∃ asked outcome c' client',
      Trusts settings now (net.userDomain client) domain root c asked outcome c' ∧
      resolveTrusted settings net.recorded now domain root (c, client, record) =
        ending outcome (c', client', record ++ asked) := by
  obtain ⟨first, known, domains, client', lists, loads⟩ :=
    loadDomains_recorded settings now net c client record
  cases known with
  | error e => exact ⟨first, .error e, _, client', .failed lists, bind_of_error loads⟩
  | ok known =>
    cases known with
    | false => exact ⟨first, .ok none, _, client', .unknown lists, bind_of_ok loads⟩
    | true =>
      obtain ⟨tier, rfl⟩ := lists.exists_of_true
      cases listed : tier.value.find? (Text.toLower domain) with
      | none =>
        refine ⟨first, .ok none, _, client', .unlisted lists listed, ?_⟩
        refine (bind_of_ok loads).trans ?_
        simp only [if_true, resolveRoot, bind, EStateM.bind, cache, Option.bind_some, listed]
        rfl
      | some roots =>
        obtain ⟨rest, outcome, client'', roots', after, resolves, alters, ends⟩ :=
          resolveRoot_putRoots settings now net domain root c tier roots client'
            (record ++ first)
        rw [← alters.altered] at resolves
        rw [List.append_assoc] at ends
        refine ⟨first ++ rest, outcome, _, client'',
          .listed lists listed resolves alters.others, ?_⟩
        refine (bind_of_ok loads).trans ?_
        rw [if_pos rfl, ← ends]
        congr 2
        exact (putRoots_of_find? (c := { c with domains := some tier }) rfl listed).symm

end Lookup
end Smb1.Dfs
