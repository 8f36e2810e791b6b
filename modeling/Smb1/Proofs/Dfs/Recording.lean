import Smb1.Proofs.Dfs.Calls

/-! A network that takes down what it is asked answers as it does without. So what is proved about
performed events is true of the calls themselves. -/
namespace Smb1.Dfs

variable {σ α β : Type}

/-- A result without what was asked. -/
def unrecorded : EStateM.Result Error (Cache × σ × List Inquiry) α →
    EStateM.Result Error (Cache × σ) α
  | .ok a s => .ok a (s.1, s.2.1)
  | .error e s => .error e (s.1, s.2.1)

/-- A lookup on a network that takes down its questions does what another does. -/
def Mirrors (recorded : Lookup (σ × List Inquiry) α) (plain : Lookup σ α) : Prop :=
  ∀ s, unrecorded (recorded s) = plain (s.1, s.2.1)

namespace Mirrors

theorem pure (a : α) : Mirrors (σ := σ) (Pure.pure a) (Pure.pure a) := fun _ => rfl

theorem bind {recorded : Lookup (σ × List Inquiry) α} {plain : Lookup σ α}
    {next : α → Lookup (σ × List Inquiry) β} {next' : α → Lookup σ β}
    (first : Mirrors recorded plain) (rest : ∀ a, Mirrors (next a) (next' a)) :
    Mirrors (recorded >>= next) (plain >>= next') := by
  intro s
  have same := first s
  simp only [Bind.bind, EStateM.bind]
  rw [← same]
  cases recorded s with
  | ok a s' => exact rest a s'
  | error e s' => rfl

theorem ite {p : Prop} [Decidable p] {yes no : Lookup (σ × List Inquiry) α}
    {yes' no' : Lookup σ α} (one : Mirrors yes yes') (other : Mirrors no no') :
    Mirrors (if p then yes else no) (if p then yes' else no') := by
  split
  · exact one
  · exact other

theorem ite_bind {p : Prop} [Decidable p] {first : Lookup (σ × List Inquiry) Unit}
    {first' : Lookup σ Unit} {next : Unit → Lookup (σ × List Inquiry) β}
    {next' : Unit → Lookup σ β} (one : Mirrors first first')
    (rest : ∀ u, Mirrors (next u) (next' u)) :
    Mirrors (if p then first >>= next else next ()) (if p then first' >>= next' else next' ()) :=
  .ite (one.bind rest) (rest ())

end Mirrors

namespace Lookup

variable (settings : Settings) (net : Network σ) (now : Moment)

theorem cache_mirrors : Mirrors (σ := σ) cache cache := fun _ => rfl

theorem setCache_mirrors (c : Cache) : Mirrors (σ := σ) (setCache c) (setCache c) := fun _ => rfl

theorem userDomain_mirrors : Mirrors (userDomain net.recorded) (userDomain net) := fun _ => rfl

theorem after_mirrors (seconds : Nat) :
    Mirrors (σ := σ) (after now seconds) (after now seconds) := by
  intro s
  rw [after_eq, after_eq]
  cases now.later seconds <;> rfl

theorem fetch_mirrors (server path : String) :
    Mirrors (fetch settings net.recorded now server path) (fetch settings net now server path) := by
  rintro ⟨c, client, record⟩
  rcases asked : net.ask server path Transaction.ReferralRequest.standardMaxReferralLevel client
    with ⟨answer, client'⟩
  simp only [fetch, Network.recorded, asked]
  cases answer with
  | ok response => rfl
  | error e =>
    by_cases strict : settings.strictView && e.isAuth
    · simp only [strict, if_true]
      rfl
    · simp only [strict]
      rfl

theorem findController_mirrors (domain : String) :
    Mirrors (findController settings net.recorded now domain)
      (findController settings net now domain) :=
  (fetch_mirrors settings net now domain _).bind fun _ => .pure _

theorem dropDomains_mirrors : Mirrors (σ := σ) (dropDomains now) (dropDomains now) :=
  cache_mirrors.bind fun _ => .ite (setCache_mirrors _) (.pure _)

theorem askDomains_mirrors :
    Mirrors (askDomains settings net.recorded now) (askDomains settings net now) := by
  refine (userDomain_mirrors net).bind fun user => ?_
  cases user.filter (· ≠ "") with
  | none => exact .pure false
  | some user =>
    refine (fetch_mirrors settings net now user "").bind fun found => ?_
    cases found with
    | none => exact .pure false
    | some list =>
      exact (after_mirrors now _).bind fun _ => cache_mirrors.bind fun _ =>
        (setCache_mirrors _).bind fun _ => .pure true

theorem loadDomains_mirrors :
    Mirrors (loadDomains settings net.recorded now) (loadDomains settings net now) :=
  (dropDomains_mirrors now).bind fun _ => cache_mirrors.bind fun _ =>
    .ite (.pure true) (askDomains_mirrors settings net now)

theorem fetchRoot_mirrors (domain root : String) :
    Mirrors (fetchRoot settings net.recorded now domain root)
      (fetchRoot settings net now domain root) := by
  refine (findController_mirrors settings net now domain).bind fun found => ?_
  cases found with
  | none => exact .pure none
  | some controller =>
    refine (fetch_mirrors settings net now controller _).bind fun found => ?_
    cases found with
    | none => exact .pure none
    | some referral => exact .pure _

theorem updateRoots_mirrors (domainKey : String) (f : Roots → Roots) :
    Mirrors (σ := σ) (updateRoots domainKey f) (updateRoots domainKey f) := by
  refine cache_mirrors.bind fun c => ?_
  cases c.domains with
  | none => exact .pure ()
  | some domains =>
    dsimp only
    cases domains.value.find? domainKey with
    | none => exact .pure ()
    | some roots => exact setCache_mirrors _

theorem dropOutdated_mirrors (domainKey rootKey : String) :
    Mirrors (σ := σ) (dropOutdated now domainKey rootKey) (dropOutdated now domainKey rootKey) := by
  refine cache_mirrors.bind fun c => ?_
  cases cachedRoot? c domainKey rootKey with
  | none => exact .pure ()
  | some entry =>
    cases entry with
    | negative => exact .pure ()
    | found entry => exact .ite (updateRoots_mirrors _ _) (.pure ())

theorem entryOf_mirrors (found : Option Referral) :
    Mirrors (σ := σ) (entryOf settings now found) (entryOf settings now found) := by
  cases found with
  | none => exact .pure _
  | some referral => exact (after_mirrors now _).bind fun _ => .pure _

theorem enterRoot_mirrors (domain root : String) :
    Mirrors (enterRoot settings net.recorded now domain root)
      (enterRoot settings net now domain root) :=
  cache_mirrors.bind fun _ => .ite
    ((fetchRoot_mirrors settings net now domain root).bind fun found =>
      (entryOf_mirrors settings now found).bind fun _ => updateRoots_mirrors _ _)
    (.pure ())

theorem renewRoot_mirrors (domain root : String) :
    Mirrors (renewRoot settings net.recorded now domain root)
      (renewRoot settings net now domain root) := by
  refine cache_mirrors.bind fun c => ?_
  cases cachedRoot? c (Text.toLower domain) (Text.toLower root) with
  | none => exact .pure none
  | some entry =>
    cases entry with
    | negative => exact .pure none
    | found entry =>
      refine (updateRoots_mirrors _ _).bind fun _ => ?_
      cases entry.value.filter fun referral => !referral.isExpired now with
      | some referral => exact .pure _
      | none =>
        exact (fetchRoot_mirrors settings net now domain root).bind fun _ =>
          (updateRoots_mirrors _ _).bind fun _ => .pure _

theorem resolveRoot_mirrors (domain root : String) :
    Mirrors (resolveRoot settings net.recorded now domain root)
      (resolveRoot settings net now domain root) :=
  cache_mirrors.bind fun _ => .ite (.pure none)
    ((dropOutdated_mirrors now _ _).bind fun _ =>
      (enterRoot_mirrors settings net now domain root).bind fun _ =>
        renewRoot_mirrors settings net now domain root)

theorem resolveTrusted_mirrors (domain root : String) :
    Mirrors (resolveTrusted settings net.recorded now domain root)
      (resolveTrusted settings net now domain root) :=
  (loadDomains_mirrors settings net now).bind fun _ =>
    .ite (resolveRoot_mirrors settings net now domain root) (.pure none)

theorem standalone_mirrors :
    Mirrors (σ := σ) (standalone settings now) (standalone settings now) := by
  refine cache_mirrors.bind fun c => ?_
  cases c.standalone with
  | some tier => exact .pure tier
  | none => exact (after_mirrors now _).bind fun _ => .pure _

theorem resolveStandalone_mirrors (key : String) :
    Mirrors (σ := σ) (resolveStandalone settings now key) (resolveStandalone settings now key) := by
  refine cache_mirrors.bind fun c => .ite_bind (setCache_mirrors _) fun _ =>
    (standalone_mirrors settings now).bind fun tier => cache_mirrors.bind fun _ =>
    (setCache_mirrors _).bind fun _ => ?_
  cases longest (tier.value.keys.filter (covers · key)) with
  | none => exact .pure none
  | some found =>
    dsimp only
    cases tier.value.find? found with
    | none => exact .pure none
    | some referral =>
      exact .ite (cache_mirrors.bind fun _ => (setCache_mirrors _).bind fun _ => .pure none)
        (.pure _)

theorem resolve_mirrors (domain root : String) (path : Option String) :
    Mirrors (resolve settings net.recorded now domain root path)
      (resolve settings net now domain root path) := by
  refine (resolveTrusted_mirrors settings net now domain root).bind fun found => ?_
  cases found with
  | some referral => exact .pure _
  | none =>
    cases path with
    | none => exact .pure none
    | some path => exact resolveStandalone_mirrors settings now _

theorem isTrustedDomain_mirrors (domain : String) :
    Mirrors (isTrustedDomain settings net.recorded now domain)
      (isTrustedDomain settings net now domain) :=
  (loadDomains_mirrors settings net now).bind fun _ =>
    .ite (cache_mirrors.bind fun _ => .pure _) (.pure false)

end Lookup

namespace Resolver

/-- A call without what was asked. -/
def Call.unrecorded (call : Call (σ × List Inquiry) α) : Call σ α :=
  (call.1, call.2.1, call.2.2.1)

theorem locked_mirrors {recorded : Lookup (σ × List Inquiry) α} {plain : Lookup σ α}
    (mirrors : Mirrors recorded plain) (r : Resolver) (client : σ) (record : List Inquiry) :
    (r.locked (client, record) recorded).unrecorded = r.locked client plain := by
  have same := mirrors (r.cache, client, record)
  unfold locked
  split
  · rfl
  · rw [← same]
    cases recorded (r.cache, client, record) <;> rfl

variable (r : Resolver) (net : Network σ) (now : Moment) (domain root : String) (client : σ)

theorem resolve_recorded (path : Option String) :
    (r.resolve net.recorded now domain root path (client, [])).unrecorded =
      r.resolve net now domain root path client := by
  unfold resolve
  split
  · rfl
  · exact locked_mirrors (Lookup.resolve_mirrors _ net now domain root path) r client []

theorem isTrustedDomain_recorded :
    (r.isTrustedDomain net.recorded now domain (client, [])).unrecorded =
      r.isTrustedDomain net now domain client := by
  unfold isTrustedDomain
  split
  · rfl
  · exact locked_mirrors (Lookup.isTrustedDomain_mirrors _ net now domain) r client []

theorem controller_recorded :
    (r.controller net.recorded now domain (client, [])).unrecorded =
      r.controller net now domain client := by
  unfold controller
  split
  · rfl
  · have same := Lookup.findController_mirrors r.settings net now domain (r.cache, client, [])
    rw [← same]
    cases Lookup.findController r.settings net.recorded now domain (r.cache, client, []) <;> rfl

/-- What a call is seen to do: what it answers, and the resolver after it. -/
def Call.shown (answer : α → Answer) (call : Call σ α) : Except Error Answer × Resolver :=
  (call.1.map answer, call.2.1)

/-- What an event is seen to do on a network that takes nothing down. -/
def shown (r : Resolver) (e : Event σ) : Except Error Answer × Resolver :=
  match e.operation with
  | .resolve domain root path => (r.resolve e.net e.now domain root path e.client).shown .referral
  | .isTrustedDomain domain => (r.isTrustedDomain e.net e.now domain e.client).shown .trusted
  | .controller domain => (r.controller e.net e.now domain e.client).shown .controller
  | .insert path referral => ((r.insert e.now path referral).1.map fun _ => .done,
      (r.insert e.now path referral).2)
  | .invalidateDomains => (r.invalidateDomains.1.map fun _ => .done, r.invalidateDomains.2)

/-- To take down what is asked changes nothing. -/
theorem perform_eq_shown (r : Resolver) (e : Event σ) :
    ((r.perform e).outcome, (r.perform e).resolver) = r.shown e := by
  unfold perform shown
  cases e.operation with
  | resolve domain root path =>
    dsimp only
    rw [← resolve_recorded r e.net e.now domain root e.client path]
    rfl
  | isTrustedDomain domain =>
    dsimp only
    rw [← isTrustedDomain_recorded r e.net e.now domain e.client]
    rfl
  | controller domain =>
    dsimp only
    rw [← controller_recorded r e.net e.now domain e.client]
    rfl
  | insert path referral => rfl
  | invalidateDomains => rfl

end Resolver

theorem findsRoot_iff {r : Resolver} {e : Event σ} {domain root : String} {referral : Referral} :
    FindsRoot r e domain root referral ↔ r.resolves root = true ∧
      ∃ after, Lookup.resolveTrusted r.settings e.net e.now domain root (r.cache, e.client) =
        .ok (some referral) after := by
  have same := Lookup.resolveTrusted_mirrors r.settings e.net e.now domain root
    (r.cache, e.client, [])
  rw [FindsRoot, ← same]
  cases Lookup.resolveTrusted r.settings e.net.recorded e.now domain root (r.cache, e.client, [])
    <;> simp [unrecorded]

end Smb1.Dfs
