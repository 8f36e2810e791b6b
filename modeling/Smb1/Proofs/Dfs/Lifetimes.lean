import Smb1.Proofs.Dfs.Runs
import Smb1.Proofs.Text.Case

/-! How long the referral of a root is served from its entry: until it runs out itself, its entry
does, or the list of domains. Whatever else is called in between changes nothing about that, and
nothing that was found of the root before is served after. -/
namespace Smb1.Dfs

open Transaction
open Lookup (joined)

variable {σ : Type} {settings : Settings} {now : Moment}
  {domain root domainKey rootKey : String} {path user : Option String} {asked : List Inquiry}
  {r : Resolver} {e : Event σ} {events : List (Event σ)} {ends : Moment} {entry : RootEntry}
  {referral : Referral}

/-- A call fetched this referral of a root with these names, which are in lower case. -/
def Fetches (settings : Settings) (domainKey rootKey : String) (e : Event σ) (p : Performed)
    (referral : Referral) : Prop :=
  ∃ domain root path, e.operation = .resolve domain root path ∧
    Text.toLower domain = domainKey ∧ Text.toLower root = rootKey ∧
    RootFetched settings e.now domain root p.asked referral

/-- A call resolved a root of these names, and the referral in this entry, if any, it fetched. -/
def Supplies (settings : Settings) (domainKey rootKey : String) (e : Event σ) (p : Performed)
    (entry : RootEntry) : Prop :=
  e.operation.requests domainKey rootKey = true ∧
    ∀ referral, entry.referral? = some referral →
      Fetches settings domainKey rootKey e p referral

theorem RootFetched.append {first rest : List Inquiry}
    (fetched : RootFetched settings now domain root rest referral) :
    RootFetched settings now domain root (first ++ rest) referral := by
  obtain ⟨q, raw, last, found⟩ := fetched
  exact ⟨q, raw, getLast?_append_of_eq_some _ last, found⟩

/-- A list of domains that has a root's entry was there before, and lives. -/
theorem Lists.of_entered {before : Option (Cached (KeyMap Roots))} {tier : Cached (KeyMap Roots)}
    {outcome : Except Error Bool}
    (lists : Lists settings now user before asked outcome (some tier))
    (entered : root? tier domainKey rootKey = some entry) :
    before = some tier ∧ now < tier.expiration := by
  obtain ⟨same, live, -⟩ | ⟨-, -, blank⟩ := lists.live_or_blank
  · exact ⟨same, live⟩
  · rw [blank] at entered
    cases entered

theorem Lists.of_false {before after : Option (Cached (KeyMap Roots))}
    (lists : Lists settings now user before asked (.ok false) after) : after = none := by
  cases lists with
  | userless | unanswered => rfl

/-- An entry was there before a lookup, or the lookup asked for its root. -/
theorem Trusts.origin {c c' : Cache} {outcome : Except Error (Option Referral)}
    {tier : Cached (KeyMap Roots)}
    (trusts : Trusts settings now user domain root c asked outcome c')
    (there : c'.domains = some tier) (entered : root? tier domainKey rootKey = some entry) :
    (∃ was, c.domains = some was ∧ was.expiration = tier.expiration ∧
        root? was domainKey rootKey = some entry) ∨
      Text.toLower domain = domainKey ∧ Text.toLower root = rootKey ∧
        ∀ referral, entry.referral? = some referral →
          RootFetched settings now domain root asked referral := by
  cases trusts with
  | failed lists =>
    obtain ⟨rfl, -⟩ := lists.of_error
    cases there
  | unknown lists =>
    rw [lists.of_false] at there
    cases there
  | unlisted lists =>
    cases there
    exact .inl ⟨tier, (lists.of_entered entered).1, rfl, entered⟩
  | @listed first rest held roots after _ lists listed resolves others =>
    cases there
    rw [root?_insert] at entered
    have unasked : root? held domainKey rootKey = some entry → ∃ was,
        c.domains = some was ∧ was.expiration = held.expiration ∧
          root? was domainKey rootKey = some entry :=
      fun known => ⟨held, (lists.of_entered known).1, rfl, known⟩
    split at entered
    next equal =>
      subst equal
      have known : ∀ key, root? held (Text.toLower domain) key = roots.find? key :=
        fun key => by rw [Smb1.Dfs.root?, listed, Option.bind_some]
      by_cases same : Text.toLower root = rootKey
      · subst same
        rw [entered] at resolves
        obtain before | fetched := resolves.kept_or_fetched
        · exact .inl (unasked ((known _).trans before))
        · exact .inr ⟨rfl, rfl, fun referral holds => (fetched referral holds).append⟩
      · rw [others rootKey (Ne.symm same)] at entered
        exact .inl (unasked ((known _).trans entered))
    next => exact .inl (unasked entered)

theorem Resolves.of_found {before after : Option RootEntry}
    (resolves : Resolves settings now domain root before asked (.ok (some referral)) after) :
    (∃ expiration, before = some (.found ⟨expiration, some referral⟩) ∧ now < expiration ∧
        now < referral.expiration) ∨
      (∃ q ∈ asked, q.path = "\\" ++ domain) ∧
        RootFetched settings now domain root asked referral := by
  have course := resolves.course
  generalize held : standing now before = left at course
  cases course with
  | entered asks => exact .inr ⟨asks.controller, (asks.fetched_iff []).mpr rfl⟩
  | lapsed asks _ _ again =>
    obtain ⟨q, among, path⟩ := asks.controller
    exact .inr ⟨⟨q, List.mem_append_left _ among, path⟩, (again.fetched_iff _).mpr rfl⟩
  | served alive =>
    obtain ⟨rfl, live⟩ := standing_eq_some held
    exact .inl ⟨_, rfl, live _ rfl, alive⟩
  | renewed _ asks => exact .inr ⟨asks.controller, (asks.fetched_iff []).mpr rfl⟩

/-- A referral that a lookup finds was in a live entry, or has been fetched. -/
theorem Trusts.of_found {c c' : Cache}
    (trusts : Trusts settings now user domain root c asked (.ok (some referral)) c') :
    (∃ tier expiration, c.domains = some tier ∧ now < tier.expiration ∧
        root? tier (Text.toLower domain) (Text.toLower root) =
          some (.found ⟨expiration, some referral⟩) ∧
        now < expiration ∧ now < referral.expiration) ∨
      (∃ q ∈ asked, q.path = "\\" ++ domain) ∧
        RootFetched settings now domain root asked referral := by
  cases trusts with
  | @listed first rest tier roots after _ lists listed resolves others =>
    obtain ⟨expiration, there, live, alive⟩ | ⟨⟨q, among, path⟩, fetched⟩ := resolves.of_found
    · have entered : root? tier (Text.toLower domain) (Text.toLower root) =
          some (.found ⟨expiration, some referral⟩) := by
        rw [Smb1.Dfs.root?, listed, Option.bind_some, there]
      obtain ⟨same, current⟩ := lists.of_entered entered
      exact .inl ⟨tier, expiration, same, current, entered, live, alive⟩
    · exact .inr ⟨⟨q, List.mem_append_right _ among, path⟩, fetched.append⟩

/-- An entry was there before a call, or the call resolved its root. -/
theorem Holds.of_perform (holds : Holds (r.perform e).resolver domainKey rootKey ends entry) :
    Holds r domainKey rootKey ends entry ∨
      Supplies r.settings domainKey rootKey e (r.perform e) entry := by
  obtain ⟨tier, there, rfl, entered⟩ := holds
  cases perform_effect r e with
  | unchanged same =>
    rw [same] at there
    exact .inl ⟨tier, there, rfl, entered⟩
  | @resolved domain root path _ _ operation resolved =>
    obtain before | ⟨domains, roots, fetched⟩ :=
      resolved.trusts.origin (resolved.domains.symm.trans there) entered
    · exact .inl before
    · refine .inr ⟨?_, fun referral held =>
        ⟨domain, root, path, operation, domains, roots, fetched referral held⟩⟩
      simp [operation, Operation.requests, domains, roots]
  | judged _ judged =>
    rw [judged.cache] at there
    cases there
    exact .inl ⟨tier, (judged.lists.of_entered entered).1, rfl, entered⟩
  | inserted _ _ same => exact .inl ⟨tier, same.symm.trans there, rfl, entered⟩
  | invalidated _ left =>
    rw [left] at there
    cases there

theorem Holds.of_performAll
    (holds : Holds (r.performAll events).2 domainKey rootKey ends entry) :
    Holds r domainKey rootKey ends entry ∨
      ∃ v ∈ (r.performAll events).1, Supplies r.settings domainKey rootKey v.1 v.2 entry := by
  induction events generalizing r with
  | nil => exact .inl holds
  | cons e events ih =>
    obtain before | ⟨v, among, supplies⟩ := ih holds
    · obtain before | supplies := before.of_perform
      · exact .inl before
      · exact .inr ⟨_, .head _, supplies⟩
    · rw [perform_settings] at supplies
      exact .inr ⟨v, .tail _ among, supplies⟩

theorem plain_ipcShare : ∀ c ∈ Lookup.ipcShare.toList, Text.Case.Plain c.toLower := by
  have all : (Lookup.ipcShare.toList.all fun c => Text.Case.Plain c.toLower) = true := by
    decide +kernel
  simpa using all

/-- Roots of the same name in lower case are looked up alike. -/
theorem resolves_of_lower {r' : Resolver} {root' : String} (resolves : r.resolves root = true)
    (settings : r'.settings = r.settings) (sound : r'.poisoned = false)
    (names : Text.toLower root' = Text.toLower root) : r'.resolves root' = true := by
  simp only [Resolver.resolves, Bool.and_eq_true, Bool.not_eq_true'] at resolves ⊢
  refine ⟨⟨settings ▸ resolves.1.1, ?_⟩, sound⟩
  rw [← Bool.not_eq_true, Text.eqIgnoringAsciiCase_iff plain_ipcShare, names,
    ← Text.eqIgnoringAsciiCase_iff plain_ipcShare, resolves.1.2]
  exact Bool.false_ne_true

theorem Holds.unique {ends' : Moment} {entry' : RootEntry}
    (holds : Holds r domainKey rootKey ends entry)
    (holds' : Holds r domainKey rootKey ends' entry') : ends' = ends ∧ entry' = entry := by
  obtain ⟨tier, there, rfl, entered⟩ := holds
  obtain ⟨tier', there', rfl, entered'⟩ := holds'
  obtain rfl := Option.some.inj (there.symm.trans there')
  exact ⟨rfl, Option.some.inj (entered'.symm.trans entered)⟩

/-- An entry that answers by itself up to a time is there after a run on a clock that does not go
back, unless another one has been supplied since that time. -/
theorem Holds.eq_or_supplied {lapse ends' : Moment} {entry' : RootEntry}
    (holds : Holds r domainKey rootKey ends entry)
    (settled : ∀ now < lapse, now < ends ∧ entry.Settled now)
    (ordered : events.Pairwise (·.now ≤ ·.now))
    (stays : ∀ u ∈ events, u.operation ≠ .invalidateDomains)
    (holds' : Holds (r.performAll events).2 domainKey rootKey ends' entry') :
    (ends' = ends ∧ entry' = entry) ∨ ∃ v ∈ (r.performAll events).1, lapse ≤ v.1.now ∧
      Supplies r.settings domainKey rootKey v.1 v.2 entry' := by
  induction events generalizing r with
  | nil => exact .inl (holds.unique holds')
  | cons e events ih =>
    obtain ⟨first, later⟩ := List.pairwise_cons.mp ordered
    obtain ⟨stays_first, stays_later⟩ := List.forall_mem_cons.mp stays
    by_cases early : e.now < lapse
    · obtain ⟨live, answers⟩ := settled e.now early
      obtain same | ⟨v, among, late, supplies⟩ :=
        ih (holds.perform live stays_first fun _ => answers) later stays_later holds'
      · exact .inl same
      · rw [perform_settings] at supplies
        exact .inr ⟨v, .tail _ among, late, supplies⟩
    · -- From here on every call is late.
      obtain before | ⟨v, among, supplies⟩ := holds'.of_performAll
      · exact .inl (holds.unique before)
      · obtain same | among' := List.mem_cons.mp (mem_of_mem_performAll among)
        · exact .inr ⟨v, among, same ▸ Nat.not_lt.mp early, supplies⟩
        · exact .inr ⟨v, among, Nat.le_trans (Nat.not_lt.mp early) (first _ among'), supplies⟩

/-- A call that resolves a root of the same names after a run of others, on a clock that does not go
back. -/
structure Revisits (settings : Settings) (domain root : String) (events : List (Event σ))
    (e : Event σ) (domain' root' : String) (path' : Option String) : Prop where
  ordered : events.Pairwise (·.now ≤ ·.now)
  last : ∀ u ∈ events, u.now ≤ e.now
  shown : ∀ u ∈ events, Shown settings u.now
  stays : ∀ u ∈ events, u.operation ≠ .invalidateDomains
  asks : e.operation = .resolve domain' root' path'
  domains : Text.toLower domain' = Text.toLower domain
  roots : Text.toLower root' = Text.toLower root

section Revisits

variable {domain' root' : String} {path' : Option String} {expiration lapse : Moment}

theorem Revisits.resolves (revisits : Revisits r.settings domain root events e domain' root' path')
    (resolves : r.resolves root = true) : (r.performAll events).2.resolves root' = true := by
  have sound : r.poisoned = false := by
    simp only [Resolver.resolves, Bool.and_eq_true, Bool.not_eq_true'] at resolves
    exact resolves.2
  exact resolves_of_lower resolves performAll_settings (performAll_poisoned sound revisits.shown)
    revisits.roots

/-- Up to the end of its lifetime a referral is served from its entry. -/
theorem Holds.served (holds : Holds r (Text.toLower domain) (Text.toLower root) ends entry)
    (settled : ∀ now, now < lapse ↔ now < ends ∧ entry.Settled now)
    (held : entry.referral? = some referral) (resolves : r.resolves root = true)
    (revisits : Revisits r.settings domain root events e domain' root' path')
    (early : e.now < lapse) :
    ((r.performAll events).2.perform e).outcome = .ok (.referral (some referral)) ∧
      ((r.performAll events).2.perform e).asked = [] := by
  have before : ∀ u ∈ events, u.now < ends ∧ entry.Settled u.now := fun u among =>
    (settled u.now).mp (Nat.lt_of_le_of_lt (revisits.last u among) early)
  obtain ⟨live, answers⟩ := (settled e.now).mp early
  obtain ⟨unasked, -, answered⟩ :=
    (holds.performAll events (fun u among => (before u among).1) revisits.stays
      fun u among _ => (before u among).2).perform_settled live answers revisits.asks
        ⟨revisits.domains, revisits.roots⟩
  obtain ⟨c, resolved⟩ := answered (revisits.resolves resolves)
  exact ⟨(resolved.found referral (congrArg Except.ok held)).1, unasked⟩

/-- After it only what has been fetched since is found. -/
theorem Holds.exists_fetches {found : Referral}
    (holds : Holds r (Text.toLower domain) (Text.toLower root) ends entry)
    (settled : ∀ now, now < lapse ↔ now < ends ∧ entry.Settled now)
    (revisits : Revisits r.settings domain root events e domain' root' path')
    (late : lapse ≤ e.now) (finds : FindsRoot (r.performAll events).2 e domain' root' found) :
    let p := (r.performAll events).2.perform e
    ((∃ q ∈ p.asked, q.path = "\\" ++ domain') ∧
        Fetches r.settings (Text.toLower domain) (Text.toLower root) e p found) ∨
      ∃ v ∈ (r.performAll events).1, lapse ≤ v.1.now ∧
        v.1.operation.requests (Text.toLower domain) (Text.toLower root) = true ∧
        Fetches r.settings (Text.toLower domain) (Text.toLower root) v.1 v.2 found := by
  obtain ⟨outcome, c, resolved⟩ := exists_resolved finds.1 revisits.asks
  obtain rfl := (resolved.finds found).mp finds
  have trusts := resolved.trusts
  rw [performAll_settings] at trusts
  obtain ⟨tier, expiration, there, current, entered, live, alive⟩ | ⟨asked, fetched⟩ :=
    trusts.of_found
  · rw [revisits.domains, revisits.roots] at entered
    obtain ⟨same, rfl⟩ | ⟨v, among, since, requests, supplied⟩ :=
      holds.eq_or_supplied (fun now => (settled now).mp) revisits.ordered revisits.stays
        ⟨tier, there, rfl, entered⟩
    · have settledNow : e.now < lapse :=
        (settled e.now).mpr ⟨same ▸ current, live, found, rfl, alive⟩
      exact absurd settledNow (Nat.not_lt.mpr late)
    · exact .inr ⟨v, among, since, requests, supplied found rfl⟩
  · exact .inl ⟨asked, domain', root', path', revisits.asks, revisits.domains, revisits.roots,
      fetched⟩

/-- The first call after it asks a controller, unless the list of domains has ended and no longer
leads to the root. -/
theorem Holds.asked_or_unfound
    (holds : Holds r (Text.toLower domain) (Text.toLower root) ends entry)
    (settled : ∀ now, now < lapse ↔ now < ends ∧ entry.Settled now)
    (resolves : r.resolves root = true)
    (revisits : Revisits r.settings domain root events e domain' root' path')
    (late : lapse ≤ e.now)
    (first : ∀ u ∈ events, lapse ≤ u.now →
      u.operation.requests (Text.toLower domain) (Text.toLower root) = false) :
    (∃ q ∈ ((r.performAll events).2.perform e).asked, q.path = "\\" ++ domain') ∨
      ends ≤ e.now ∧ ∀ found, ¬FindsRoot (r.performAll events).2 e domain' root' found := by
  by_cases live : e.now < ends
  · left
    have kept := holds.performAll events
      (fun u among => Nat.lt_of_le_of_lt (revisits.last u among) live) revisits.stays
      fun u among requested => by
        by_cases early : u.now < lapse
        · exact ((settled u.now).mp early).2
        · rw [first u among (Nat.not_lt.mp early)] at requested
          cases requested
    obtain ⟨_, _, _, -, looked, -⟩ := kept.exists_resolves live (revisits.resolves resolves)
      revisits.asks ⟨revisits.domains, revisits.roots⟩
    obtain ⟨_, ⟨⟩, answers, -⟩ | ⟨-, asked⟩ := looked.settled_or_asks
    · exact absurd ((settled e.now).mpr ⟨live, answers⟩) (Nat.not_lt.mpr late)
    · exact asked
  · by_cases finds : ∃ found, FindsRoot (r.performAll events).2 e domain' root' found
    · obtain ⟨found, finds⟩ := finds
      obtain ⟨asked, -⟩ | ⟨v, among, since, requests, -⟩ :=
        holds.exists_fetches settled revisits late finds
      · exact .inl asked
      · cases (first v.1 (mem_of_mem_performAll among) since).symm.trans requests
    · exact .inr ⟨Nat.not_lt.mp live, fun found finds' => finds ⟨found, finds'⟩⟩

end Revisits

/-- A live entry of a root that has outlived its own referral. -/
def Outlived (r : Resolver) (now : Moment) (domainKey rootKey : String)
    (expiration : Moment) : Prop :=
  now < expiration ∧ ∃ ends value, Holds r domainKey rootKey ends (.found ⟨expiration, value⟩) ∧
    now < ends ∧ ∀ old, value = some old → old.expiration ≤ now

theorem Referral.expiration_of_ofResponse? {response : Transaction.ReferralResponse}
    (given : Referral.ofResponse? response now = some referral) :
    referral.expiration = now + referral.ttl.toNat * 1000 := by
  unfold Referral.ofResponse? at given
  dsimp only at given
  split at given
  · cases given
    rfl
  · cases given

theorem Inquiry.expiration_of_verdict {q : Inquiry} {raw : Referral}
    (answered : q.verdict settings now = .ok (some raw)) :
    raw.expiration = now + raw.ttl.toNat * 1000 := by
  unfold Inquiry.verdict at answered
  split at answered
  · exact Referral.expiration_of_ofResponse? (Except.ok.inj answered)
  · split at answered <;> cases answered

theorem RootFetched.expiration (fetched : RootFetched settings now domain root asked referral) :
    referral.expiration = now + referral.ttl.toNat * 1000 := by
  obtain ⟨q, raw, -, -, answered, rfl⟩ := fetched
  have given := Inquiry.expiration_of_verdict answered
  exact given

/-- A referral that a call fetched is its answer, and stands in the entry of the root: a new one, or
one that has outlived its referral. -/
theorem exists_holds_of_fetched (asks : e.operation = .resolve domain root path)
    (shown : Shown r.settings e.now)
    (fetched : RootFetched r.settings e.now domain root (r.perform e).asked referral) :
    (r.perform e).outcome = .ok (.referral (some referral)) ∧
      (r.perform e).resolver.resolves root = true ∧ ∃ ends expiration,
        Holds (r.perform e).resolver (Text.toLower domain) (Text.toLower root) ends
          (.found ⟨expiration, some referral⟩) ∧
        (Outlived r e.now (Text.toLower domain) (Text.toLower root) expiration ∨
          (∀ other, ¬Outlived r e.now (Text.toLower domain) (Text.toLower root) other) ∧
            expiration = e.now + r.settings.ttl * 1000) := by
  cases resolving : r.resolves root with
  | false =>
    obtain ⟨q, raw, last, -⟩ := fetched
    rw [(perform_of_not_resolves resolving asks).1] at last
    cases last
  | true =>
    obtain ⟨outcome, c, resolved⟩ := exists_resolved resolving asks
    obtain ⟨q, raw, last, named, -⟩ := id fetched
    obtain ⟨first, rest, before, after, tier, whole, list, resolves, there, entered, origin⟩ :=
      resolved.trusts.exists_resolves last (.inr named)
    rw [whole] at fetched
    obtain ⟨error, -, late⟩ | ⟨rfl, expiration, rfl, since⟩ :=
      resolves.of_fetched (fetched.of_append list)
    · exact absurd late (shown.entry error)
    · obtain ⟨answered, sound⟩ := resolved.found referral rfl
      refine ⟨answered, resolves_of_lower resolving resolved.settings sound rfl, tier.expiration,
        expiration, ⟨tier, resolved.domains.trans there, rfl, entered⟩, ?_⟩
      obtain ⟨value, stood, past⟩ | ⟨gone, clock⟩ := since
      · obtain ⟨rfl, live⟩ := standing_eq_some stood
        obtain ⟨was, was_there, alive, -, was_entered⟩ | ⟨-, -, ⟨⟩⟩ := origin
        exact .inl ⟨live _ rfl, _, value, ⟨was, was_there, rfl, was_entered⟩, alive, past⟩
      · refine .inr ⟨?_, Moment.eq_of_later_eq_ok clock⟩
        rintro other ⟨live, _, value, ⟨was, was_there, rfl, was_entered⟩, alive, -⟩
        obtain ⟨_, same, -, -, was_before⟩ | ⟨stale, -⟩ := origin
        · obtain rfl := Option.some.inj (was_there.symm.trans same)
          have past := expired_of_standing gone (was_before.symm.trans was_entered)
          exact absurd live (Nat.not_lt.mpr past)
        · exact absurd alive (Nat.not_lt.mpr (stale was was_there))

/-- How a call for a root goes after a run of others, for a referral that was to be served up to a
time: up to it the referral is the answer, and nothing is asked. After it only what has been fetched
since is found, and the first call asks a controller, unless the list of domains has ended and
no longer leads to the root. -/
structure Serves (r : Resolver) (domainKey rootKey : String) (referral : Referral)
    (lapse ends : Moment) (events : List (Event σ)) (e : Event σ) (domain root : String) :
    Prop where
  cached : e.now < lapse →
    ((r.performAll events).2.perform e).outcome = .ok (.referral (some referral)) ∧
      ((r.performAll events).2.perform e).asked = []
  fetched : lapse ≤ e.now → ∀ found, FindsRoot (r.performAll events).2 e domain root found →
    Fetches r.settings domainKey rootKey e ((r.performAll events).2.perform e) found ∨
      ∃ v ∈ (r.performAll events).1, lapse ≤ v.1.now ∧
        Fetches r.settings domainKey rootKey v.1 v.2 found
  asked : lapse ≤ e.now →
    (∀ u ∈ events, lapse ≤ u.now → u.operation.requests domainKey rootKey = false) →
      (∃ q ∈ ((r.performAll events).2.perform e).asked, q.path = "\\" ++ domain) ∨
        ends ≤ e.now ∧ ∀ found, ¬FindsRoot (r.performAll events).2 e domain root found

/-- A referral of a root that has been fetched is served from its entry exactly until it runs out,
or the entry does, or the list of domains. A new entry lives for the resolver's lifetime; a
referral that replaces one that has run out inside its entry has the rest of that entry's. -/
theorem resolve_untilLapse (asks : e.operation = .resolve domain root path)
    (shown : Shown r.settings e.now)
    (fetched : RootFetched r.settings e.now domain root (r.perform e).asked referral) :
    let left := (r.perform e).resolver
    let domainKey := Text.toLower domain
    let rootKey := Text.toLower root
    (r.perform e).outcome = .ok (.referral (some referral)) ∧
      referral.expiration = e.now + referral.ttl.toNat * 1000 ∧
      ∃ ends expiration,
        Holds left domainKey rootKey ends (.found ⟨expiration, some referral⟩) ∧
        (Outlived r e.now domainKey rootKey expiration ∨
          (∀ other, ¬Outlived r e.now domainKey rootKey other) ∧
            expiration = e.now + r.settings.ttl * 1000) ∧
        ∀ (events : List (Event σ)) (e' : Event σ) (domain' root' : String)
          (path' : Option String),
        Revisits r.settings domain root events e' domain' root' path' →
          Serves left domainKey rootKey referral
            (min referral.expiration (min expiration ends)) ends events e' domain' root' := by
  obtain ⟨answered, resolves, ends, expiration, holds, since⟩ :=
    exists_holds_of_fetched asks shown fetched
  refine ⟨answered, fetched.expiration, ends, expiration, holds, since, ?_⟩
  intro events e' domain' root' path' revisits
  rw [← perform_settings (r := r) (e := e)] at revisits
  have settled : ∀ now, now < min referral.expiration (min expiration ends) ↔
      now < ends ∧ (RootEntry.found ⟨expiration, some referral⟩).Settled now := by
    intro now
    simp only [RootEntry.Settled, Nat.lt_min, Option.some.injEq, exists_eq_left']
    exact ⟨fun ⟨alive, live, current⟩ => ⟨current, live, alive⟩,
      fun ⟨current, live, alive⟩ => ⟨alive, live, current⟩⟩
  refine ⟨holds.served settled rfl resolves revisits, ?_,
    holds.asked_or_unfound settled resolves revisits⟩
  intro late found finds
  obtain ⟨-, fetches⟩ | ⟨v, among, since, -, fetches⟩ :=
    holds.exists_fetches settled revisits late finds
  · exact .inl fetches
  · exact .inr ⟨v, among, since, fetches⟩

theorem resolve_untilLapse_fiveSeconds :
    let r := Resolver.ofConfig (Config.standard 0 "")
    let e := asking 0 (.ok (leadingFor 5))
    let left := (r.perform e).resolver
    let refused : Except Error ReferralResponse := .error (.io .refused)
    let other : Event Unit := ⟨1000, corp refused, (), .isTrustedDomain "home"⟩
    Shown r.settings e.now ∧ ∃ referral,
      RootFetched r.settings e.now "corp" "data" (r.perform e).asked referral ∧
      ((left.performAll [other]).2.perform (asking 4999 refused)).outcome =
        .ok (.referral (some referral)) ∧
      ∃ q ∈ ((left.performAll [other]).2.perform (asking 5000 refused)).asked,
        q.path = "\\corp" := by
  intro r e left refused other
  have shown : Shown r.settings e.now := by decide +kernel
  obtain ⟨referral, found⟩ : ∃ referral, lastFetched? r.settings e.now "corp" "data"
      (r.perform e).asked = some referral := Option.isSome_iff_exists.mp (by decide +kernel)
  have fetched := rootFetched_iff.mpr found
  obtain ⟨-, -, ends, expiration, ⟨tier, there, rfl, -⟩, since, serves⟩ :=
    resolve_untilLapse (r := r) (e := e) rfl shown fetched
  have expires : referral.expiration = 5000 := by
    have shown : (lastFetched? r.settings e.now "corp" "data" (r.perform e).asked).map
        Referral.expiration = some 5000 := by decide +kernel
    rw [found] at shown
    exact Option.some.inj shown
  have ends : tier.expiration = 3000000 := by
    have shown : (r.perform e).resolver.cache.domains.map (·.expiration) = some 3000000 := by
      decide +kernel
    rw [there] at shown
    exact Option.some.inj shown
  have entry : expiration = 300000 := by
    obtain ⟨-, _, _, ⟨_, known, -⟩, -⟩ | ⟨-, since⟩ := since
    · cases known
    · exact since.trans (by decide +kernel)
  have revisits : ∀ e' : Event Unit, 1000 ≤ e'.now → e'.operation = .resolve "corp" "data" none →
      Revisits r.settings "corp" "data" [other] e' "corp" "data" none := fun e' later asks =>
    ⟨List.pairwise_singleton .., by simpa [other] using later, by decide +kernel,
      by simp [other], asks, rfl, rfl⟩
  have lapse : min referral.expiration (min expiration tier.expiration) = 5000 := by
    rw [expires, entry, ends]
    decide
  rw [lapse] at serves
  refine ⟨shown, referral, fetched, ?_, ?_⟩
  · exact ((serves [other] _ _ _ _ (revisits (asking 4999 refused) (by decide +kernel) rfl)).cached
      (by decide +kernel)).1
  · refine ((serves [other] _ _ _ _ (revisits (asking 5000 refused) (by decide +kernel) rfl)).asked
      (by decide +kernel) (by decide +kernel)).resolve_right fun ended => ?_
    rw [ends] at ended
    exact absurd ended.1 (by decide +kernel)

/-- A referral of ten minutes that has replaced one of six seconds is not served for even five: it
ends with the entry of the first. Once the list of domains has run out and no other can be loaded,
nothing but that list is asked for. -/
theorem resolve_outlivedEntry :
    let before := ((Resolver.ofConfig (Config.standard 0 "")).perform
      (asking 0 (.ok (leadingFor 6)))).resolver
    let e := asking 6000 (.ok (leadingFor 600))
    let left := (before.perform e).resolver
    let again := left.perform (asking 300000 (.ok (leadingFor 600)))
    let silent :=
      { corp (.ok (leadingFor 600)) with ask := fun _ _ _ _ => (.error (.io .refused), ()) }
    let afterwards := left.perform ⟨3000000, silent, (), .resolve "corp" "data" none⟩
    (lastFetched? before.settings e.now "corp" "data" (before.perform e).asked).any
        (300000 < ·.expiration) ∧
      300000 < e.now + before.settings.ttl * 1000 ∧
      left.cache.domains.any (300000 < ·.expiration) ∧ again.asked ≠ [] ∧
      left.cache.domains.any (·.expiration ≤ 3000000) ∧
      afterwards.asked.map (·.path) = [""] := by
  decide +kernel

end Smb1.Dfs
