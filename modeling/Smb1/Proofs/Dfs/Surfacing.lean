import Smb1.Proofs.Dfs.Roots

/-! Which failures of its network a resolver reports: rejected credentials, and these only under a
strict view. They are the last that it hears of the network, and leave what it knew in place. -/
namespace Smb1.Dfs

open Transaction
open Lookup (cachedRoot?)

variable {σ α β : Type} {settings : Settings} {now : Moment} {domain root : String}
  {user : Option String} {asked first rest : List Inquiry} {error : Error}

/-- The network rejected the credentials. -/
def Inquiry.Rejected (q : Inquiry) (error : Error) : Prop :=
  q.answer = .error error ∧ error.isAuth = true

theorem isOutOfRange_of_isAuth (auth : error.isAuth = true) : error.isOutOfRange = false := by
  cases error with
  | auth => rfl
  | _ => cases auth

theorem Inquiry.verdict_eq_error {q : Inquiry} :
    q.verdict settings now = .error error ↔ settings.strictView = true ∧ q.Rejected error := by
  unfold verdict Rejected
  cases q.answer with
  | ok response => simp
  | error e =>
    by_cases strict : settings.strictView && e.isAuth
    · simp only [strict, if_true, Except.error.injEq]
      obtain ⟨view, auth⟩ := Bool.and_eq_true_iff.mp strict
      constructor
      · rintro rfl
        exact ⟨view, rfl, auth⟩
      · exact fun rejected => rejected.2.1
    · simp only [strict]
      constructor
      · exact nofun
      · rintro ⟨view, ⟨⟩, auth⟩
        exact absurd (Bool.and_eq_true_iff.mpr ⟨view, auth⟩) strict

/-- None of some answers ends a lookup. -/
def Quiet (settings : Settings) (now : Moment) (asked : List Inquiry) : Prop :=
  ∀ q ∈ asked, ∀ error, q.verdict settings now ≠ .error error

theorem Quiet.append (first_quiet : Quiet settings now first)
    (rest_quiet : Quiet settings now rest) : Quiet settings now (first ++ rest) := by
  intro q among
  obtain among | among := List.mem_append.mp among
  · exact first_quiet q among
  · exact rest_quiet q among

/-- How the outcome of a lookup hangs together with what it asked: the first answer that ends the
lookup is the last, and nothing else fails except a clock that cannot show the end of a lifetime. -/
inductive Surfaces (settings : Settings) (now : Moment) : List Inquiry → Except Error α → Prop
  | answered {asked : List Inquiry} {a : α} : Quiet settings now asked →
      Surfaces settings now asked (.ok a)
  | rejected {before : List Inquiry} {q : Inquiry} {error : Error} : Quiet settings now before →
      q.verdict settings now = .error error → Surfaces settings now (before ++ [q]) (.error error)
  | late {asked : List Inquiry} {seconds : Nat} {error : Error} : Quiet settings now asked →
      seconds = settings.ttl ∨ seconds = settings.ttl * Lookup.domainTtlFactor →
      now.later seconds = .error error → Surfaces settings now asked (.error error)

namespace Surfaces

variable {outcome : Except Error α}

theorem quiet {a : α} (surfaces : Surfaces settings now asked (.ok a)) :
    Quiet settings now asked := by
  cases surfaces with
  | answered quiet => exact quiet

theorem append (quiet : Quiet settings now first) (surfaces : Surfaces settings now rest outcome) :
    Surfaces settings now (first ++ rest) outcome := by
  cases surfaces with
  | answered rest_quiet => exact .answered (quiet.append rest_quiet)
  | rejected before_quiet ends =>
    rw [← List.append_assoc]
    exact .rejected (quiet.append before_quiet) ends
  | late rest_quiet among clock => exact .late (quiet.append rest_quiet) among clock

theorem map (f : α → β) (surfaces : Surfaces settings now asked outcome) :
    Surfaces settings now asked (outcome.map f) := by
  cases surfaces with
  | answered quiet => exact .answered quiet
  | rejected quiet ends => exact .rejected quiet ends
  | late quiet among clock => exact .late quiet among clock

/-- A failure fails whatever was looked up. -/
theorem of_error (surfaces : Surfaces settings now asked (.error error : Except Error α)) :
    Surfaces settings now asked (.error error : Except Error β) := by
  cases surfaces with
  | rejected quiet ends => exact .rejected quiet ends
  | late quiet among clock => exact .late quiet among clock

theorem refused {q : Inquiry} (ends : q.verdict settings now = .error error) :
    Surfaces settings now [q] (.error error : Except Error α) := by
  rw [← List.nil_append [q]]
  exact .rejected (fun _ among => nomatch among) ends

theorem single (q : Inquiry) : Surfaces settings now [q] (q.verdict settings now) := by
  cases answered : q.verdict settings now with
  | ok found =>
    refine .answered fun other among error => ?_
    rw [List.mem_singleton.mp among, answered]
    exact nofun
  | error error => exact refused answered

end Surfaces

theorem Quiet.nil : Quiet settings now [] := fun _ among => nomatch among

theorem Quiet.single {q : Inquiry} {found : Option Referral}
    (answered : q.verdict settings now = .ok found) : Quiet settings now [q] := by
  have surfaces : Surfaces settings now [q] (q.verdict settings now) := .single q
  rw [answered] at surfaces
  exact surfaces.quiet

theorem AsksRoot.surfaces {outcome : Except Error (Option Referral)}
    (asks : AsksRoot settings now domain root asked outcome) :
    Surfaces settings now asked outcome := by
  cases asks with
  | refused _ answered => exact answered ▸ Surfaces.single _
  | unled _ answered => exact answered ▸ Surfaces.single _
  | led _ answered => exact .append (.single answered) ((Surfaces.single _).map _)

theorem Lists.surfaces {before after : Option (Cached (KeyMap Roots))}
    {outcome : Except Error Bool} (lists : Lists settings now user before asked outcome after) :
    Surfaces settings now asked outcome := by
  cases lists with
  | live | userless => exact .answered .nil
  | refused _ _ answered => exact .refused answered
  | unanswered _ _ answered => exact .answered (.single answered)
  | late _ _ answered clock => exact .late (.single answered) (.inr rfl) clock
  | loaded _ _ answered => exact .answered (.single answered)

theorem Enters.surfaces {before : Option RootEntry} {outcome : Except Error RootEntry}
    (enters : Enters settings now domain root before asked outcome) :
    Surfaces settings now asked outcome := by
  cases enters with
  | there => exact .answered .nil
  | refused asks => exact asks.surfaces.of_error
  | negative asks => exact .answered asks.surfaces.quiet
  | late asks clock => exact .late asks.surfaces.quiet (.inl rfl) clock
  | found asks => exact .answered asks.surfaces.quiet

theorem Renews.surfaces {before after : RootEntry} {outcome : Except Error (Option Referral)}
    (renews : Renews settings now domain root before asked outcome after) :
    Surfaces settings now asked outcome := by
  cases renews with
  | negative | live => exact .answered .nil
  | renewed _ asks | refused _ asks => exact asks.surfaces

theorem Resolves.surfaces {before after : Option RootEntry}
    {outcome : Except Error (Option Referral)}
    (resolves : Resolves settings now domain root before asked outcome after) :
    Surfaces settings now asked outcome := by
  cases resolves with
  | unentered enters => exact enters.surfaces.of_error
  | entered enters renews => exact .append enters.surfaces.quiet renews.surfaces

theorem Trusts.surfaces {c c' : Cache} {outcome : Except Error (Option Referral)}
    (trusts : Trusts settings now user domain root c asked outcome c') :
    Surfaces settings now asked outcome := by
  cases trusts with
  | failed lists => exact lists.surfaces.of_error
  | unknown lists | unlisted lists => exact .answered lists.surfaces.quiet
  | listed lists _ resolves => exact .append lists.surfaces.quiet resolves.surfaces

variable {r : Resolver} {e : Event σ}

theorem Resolved.surfaces {path : Option String} {p : Performed}
    {outcome : Except Error (Option Referral)} {c : Cache}
    (resolved : Resolved r e domain root path p outcome c) :
    Surfaces r.settings e.now p.asked p.outcome := by
  have surfaces := resolved.trusts.surfaces
  cases outcome with
  | error error =>
    rw [(resolved.failed error rfl).1]
    exact surfaces.of_error
  | ok found =>
    cases found with
    | some referral =>
      rw [(resolved.found referral rfl).1]
      exact .answered surfaces.quiet
    | none =>
      obtain ⟨nothing, -⟩ | ⟨-, ⟨found, answered, -⟩ | ⟨error, clock, failed, -⟩⟩ :=
        resolved.missed rfl
      · rw [nothing]
        exact .answered surfaces.quiet
      · rw [answered]
        exact .answered surfaces.quiet
      · rw [failed]
        exact .late surfaces.quiet (.inl rfl) clock

theorem Judged.surfaces {p : Performed} {outcome : Except Error Bool}
    {domains : Option (Cached (KeyMap Roots))} (judged : Judged r e p outcome domains) :
    Surfaces r.settings e.now p.asked p.outcome := by
  have surfaces := judged.lists.surfaces
  cases outcome with
  | error error =>
    rw [(judged.failed error rfl).1]
    exact surfaces.of_error
  | ok listed =>
    obtain ⟨trusted, answered, -⟩ := judged.known listed rfl
    rw [answered]
    exact .answered surfaces.quiet

theorem perform_surfaces (sound : r.poisoned = false) (looks : e.operation.looksUp = true) :
    Surfaces r.settings e.now (r.perform e).asked (r.perform e).outcome := by
  have unspoilt : ¬r.poisoned = true := by simp [sound]
  cases operation : e.operation with
  | resolve domain root path =>
    cases resolving : r.resolves root with
    | false =>
      obtain ⟨unasked, -, nothing | ⟨spoilt, -⟩⟩ := perform_of_not_resolves resolving operation
      · rw [unasked, nothing]
        exact .answered .nil
      · exact absurd spoilt unspoilt
    | true =>
      obtain ⟨outcome, c, resolved⟩ := exists_resolved resolving operation
      exact resolved.surfaces
  | isTrustedDomain domain =>
    by_cases disabled : r.settings.disabled = true
    · obtain ⟨unasked, -, nothing | ⟨spoilt, -⟩⟩ :=
        perform_isTrustedDomain_of_idle (.inl disabled) operation
      · rw [unasked, nothing]
        exact .answered .nil
      · exact absurd spoilt unspoilt
    · obtain ⟨outcome, domains, judged⟩ :=
        exists_judged (Bool.not_eq_true _ |>.mp disabled) sound operation
      exact judged.surfaces
  | controller domain =>
    obtain ⟨-, ⟨unasked, nothing⟩ | ⟨q, one, answered⟩⟩ := perform_controller operation
    · rw [unasked, nothing]
      exact .answered .nil
    · rw [one, answered]
      exact (Surfaces.single q).map _
  | insert | invalidateDomains => rw [operation] at looks; cases looks

/-- A rejection as a caller sees it: it came last, and what the resolver knew is still there. Of the
root that was asked for nothing is said, not even that it is missing. -/
structure Surfaced (r : Resolver) (e : Event σ) (p : Performed) (error : Error) : Prop where
  last : ∃ before q, p.asked = before ++ [q] ∧ q.Rejected error ∧
    ∀ other ∈ before, ∀ error, ¬other.Rejected error
  sound : p.resolver.poisoned = false
  standalone : p.resolver.cache.standalone = r.cache.standalone
  requested : ∀ domainKey rootKey, e.operation.requests domainKey rootKey = true →
    cachedRoot? p.resolver.cache domainKey rootKey ≠ some .negative
  others : (∀ tier, r.cache.domains = some tier → e.now < tier.expiration) →
    ∀ domainKey rootKey, e.operation.requests domainKey rootKey = false →
      cachedRoot? p.resolver.cache domainKey rootKey = cachedRoot? r.cache domainKey rootKey

theorem Trusts.standalone {c c' : Cache} {outcome : Except Error (Option Referral)}
    (trusts : Trusts settings now user domain root c asked outcome c') :
    c'.standalone = c.standalone := by
  cases trusts <;> rfl

theorem Lists.of_error {before after : Option (Cached (KeyMap Roots))}
    (lists : Lists settings now user before asked (.error error) after) :
    after = none ∧ ∀ tier, before = some tier → tier.expiration ≤ now := by
  cases lists with
  | refused stale | late stale => exact ⟨rfl, stale⟩

theorem Resolves.ne_negative {before after : Option RootEntry}
    (resolves : Resolves settings now domain root before asked (.error error) after) :
    after ≠ some .negative := by
  cases resolves with
  | unentered => exact nofun
  | entered _ renews =>
    cases renews with
    | refused => exact nofun

/-- A lookup that fails does not enter its root as missing. -/
theorem Trusts.ne_negative {c c' : Cache}
    (trusts : Trusts settings now user domain root c asked (.error error) c') :
    cachedRoot? c' (Text.toLower domain) (Text.toLower root) ≠ some .negative := by
  cases trusts with
  | failed lists =>
    rw [lists.of_error.1]
    exact nofun
  | listed _ _ resolves =>
    rw [cachedRoot?_eq, Cache.putRoots, Option.bind_some, root?_insert, if_pos rfl]
    exact resolves.ne_negative

/-- Roots that are not asked for keep their entries as long as the list of domains lives. -/
theorem Trusts.others {c c' : Cache}
    (trusts : Trusts settings now user domain root c asked (.error error) c')
    (live : ∀ tier, c.domains = some tier → now < tier.expiration) {domainKey rootKey : String}
    (other : ¬(Text.toLower domain = domainKey ∧ Text.toLower root = rootKey)) :
    cachedRoot? c' domainKey rootKey = cachedRoot? c domainKey rootKey := by
  have absent : (∀ tier, c.domains = some tier → tier.expiration ≤ now) → c.domains = none :=
    fun stale => Option.eq_none_iff_forall_ne_some.mpr fun tier there =>
      absurd (live tier there) (Nat.not_lt.mpr (stale tier there))
  rw [cachedRoot?_eq, cachedRoot?_eq]
  cases trusts with
  | failed lists =>
    obtain ⟨rfl, stale⟩ := lists.of_error
    rw [absent stale]
  | @listed _ _ tier roots after _ lists listed resolves others =>
    have entered : root? { tier with value := tier.value.insert (Text.toLower domain) after }
        domainKey rootKey = root? tier domainKey rootKey := by
      rw [root?_insert]
      split
      next equal =>
        subst equal
        rw [root?, listed, Option.bind_some]
        exact others rootKey fun same => other ⟨rfl, same.symm⟩
      next => rfl
    rw [Cache.putRoots, Option.bind_some, entered]
    obtain ⟨there, -, -⟩ | ⟨stale, -, blank⟩ := lists.live_or_blank
    · rw [there, Option.bind_some]
    · rw [absent stale, blank, Option.bind_none]

/-- A failure that the clock has no part in is a rejection. -/
theorem Surfaces.rejected_of_error
    (surfaces : Surfaces settings now asked (.error error : Except Error α))
    (reported : error.isOutOfRange = false) :
    settings.strictView = true ∧ ∃ before q, asked = before ++ [q] ∧ q.Rejected error ∧
      ∀ other ∈ before, ∀ error, ¬other.Rejected error := by
  cases surfaces with
  | rejected quiet ends =>
    obtain ⟨strict, rejected⟩ := Inquiry.verdict_eq_error.mp ends
    exact ⟨strict, _, _, rfl, rejected, fun other among error rejected' =>
      quiet other among error (Inquiry.verdict_eq_error.mpr ⟨strict, rejected'⟩)⟩
  | late _ _ clock =>
    rw [Moment.eq_of_later_eq_error clock] at reported
    cases reported

theorem perform_rejected (sound : r.poisoned = false) (looks : e.operation.looksUp = true)
    (failed : (r.perform e).outcome = .error error) (reported : error.isOutOfRange = false) :
    r.settings.strictView = true ∧ ∃ before q, (r.perform e).asked = before ++ [q] ∧
      q.Rejected error ∧ ∀ other ∈ before, ∀ error, ¬other.Rejected error := by
  have surfaces := perform_surfaces sound looks
  rw [failed] at surfaces
  exact surfaces.rejected_of_error reported

theorem surfaced_of_resolve {path : Option String} (sound : r.poisoned = false)
    (asks : e.operation = .resolve domain root path)
    (failed : (r.perform e).outcome = .error error) (reported : error.isOutOfRange = false) :
    Surfaced r e (r.perform e) error := by
  obtain ⟨-, last⟩ := perform_rejected sound (by rw [asks]; rfl) failed reported
  cases resolving : r.resolves root with
  | false =>
    obtain ⟨-, -, nothing | ⟨spoilt, -⟩⟩ := perform_of_not_resolves resolving asks
    · cases failed.symm.trans nothing
    · simp [sound] at spoilt
  | true =>
    obtain ⟨outcome, c, resolved⟩ := exists_resolved resolving asks
    cases outcome with
    | error error' =>
      obtain ⟨failed', rfl, poisoned⟩ := resolved.failed error' rfl
      obtain rfl := Except.error.inj (failed'.symm.trans failed)
      refine ⟨last, poisoned.trans reported, resolved.trusts.standalone, ?_, ?_⟩
      · intro domainKey rootKey requested
        simp only [asks, Operation.requests, Bool.and_eq_true, decide_eq_true_eq] at requested
        obtain ⟨rfl, rfl⟩ := requested
        exact resolved.trusts.ne_negative
      · intro live domainKey rootKey other
        simp only [asks, Operation.requests, Bool.and_eq_false_iff, decide_eq_false_iff_not,
          ← not_and_or] at other
        exact resolved.trusts.others live other
    | ok found =>
      cases found with
      | some referral => cases (resolved.found referral rfl).1.symm.trans failed
      | none =>
        obtain ⟨nothing, -⟩ | ⟨-, ⟨found, answered, -⟩ | ⟨late, clock, failed', -⟩⟩ :=
          resolved.missed rfl
        · cases nothing.symm.trans failed
        · cases answered.symm.trans failed
        · obtain rfl := Except.error.inj (failed'.symm.trans failed)
          rw [Moment.eq_of_later_eq_error clock] at reported
          cases reported

theorem surfaced_of_isTrustedDomain (sound : r.poisoned = false)
    (asks : e.operation = .isTrustedDomain domain)
    (failed : (r.perform e).outcome = .error error) (reported : error.isOutOfRange = false) :
    Surfaced r e (r.perform e) error := by
  obtain ⟨-, last⟩ := perform_rejected sound (by rw [asks]; rfl) failed reported
  have unrequested : ∀ domainKey rootKey, e.operation.requests domainKey rootKey = false := by
    rw [asks]
    exact fun _ _ => rfl
  by_cases disabled : r.settings.disabled = true
  · obtain ⟨-, -, nothing | ⟨spoilt, -⟩⟩ := perform_isTrustedDomain_of_idle (.inl disabled) asks
    · cases failed.symm.trans nothing
    · simp [sound] at spoilt
  · obtain ⟨outcome, domains, judged⟩ :=
      exists_judged (Bool.not_eq_true _ |>.mp disabled) sound asks
    cases outcome with
    | ok listed =>
      obtain ⟨trusted, answered, -⟩ := judged.known listed rfl
      cases answered.symm.trans failed
    | error error' =>
      obtain ⟨failed', poisoned⟩ := judged.failed error' rfl
      obtain rfl := Except.error.inj (failed'.symm.trans failed)
      obtain ⟨rfl, stale⟩ := judged.lists.of_error
      refine ⟨last, poisoned.trans reported, by rw [judged.cache], ?_, ?_⟩
      · intro domainKey rootKey requested
        rw [unrequested] at requested
        cases requested
      · intro live domainKey rootKey _
        rw [cachedRoot?_eq, cachedRoot?_eq, judged.cache]
        cases there : r.cache.domains with
        | none => rfl
        | some tier => exact absurd (live tier there) (Nat.not_lt.mpr (stale tier there))

theorem surfaced_of_controller (sound : r.poisoned = false)
    (asks : e.operation = .controller domain)
    (failed : (r.perform e).outcome = .error error) (reported : error.isOutOfRange = false) :
    Surfaced r e (r.perform e) error := by
  obtain ⟨-, last⟩ := perform_rejected sound (by rw [asks]; rfl) failed reported
  obtain ⟨same, -⟩ := perform_controller asks
  refine ⟨last, by rw [same, sound], by rw [same], ?_, fun _ _ _ _ => by rw [same]⟩
  rw [asks]
  exact fun _ _ => nofun

/-- A lookup fails exactly when the network rejects the credentials under a strict view, and with
that very rejection; all other answers of the network lead to an answer. A clock that cannot show
the end of a lifetime aside. -/
theorem perform_error_iff_rejected (sound : r.poisoned = false)
    (looks : e.operation.looksUp = true) :
    let p := r.perform e
    ((∃ error, p.outcome = .error error ∧ error.isOutOfRange = false) ↔
      r.settings.strictView = true ∧ ∃ q ∈ p.asked, ∃ error, q.Rejected error) ∧
    (∀ error, p.outcome = .error error → error.isOutOfRange = false → Surfaced r e p error) ∧
    (∀ error, p.outcome = .error error → error.isOutOfRange = true →
      ∃ seconds, (seconds = r.settings.ttl ∨
          seconds = r.settings.ttl * Lookup.domainTtlFactor) ∧
        e.now.later seconds = .error error) := by
  have surfaces := perform_surfaces sound looks
  refine ⟨⟨?_, ?_⟩, ?_, ?_⟩
  · rintro ⟨error, failed, reported⟩
    rw [failed] at surfaces
    obtain ⟨strict, before, q, asked, rejected, -⟩ := surfaces.rejected_of_error reported
    exact ⟨strict, q, by simp [asked], error, rejected⟩
  · rintro ⟨strict, q, among, error, rejected⟩
    have ends : ¬Quiet r.settings e.now (r.perform e).asked := fun quiet =>
      quiet q among error (Inquiry.verdict_eq_error.mpr ⟨strict, rejected⟩)
    generalize (r.perform e).asked = asked, (r.perform e).outcome = outcome at surfaces ends
    cases surfaces with
    | answered quiet | late quiet => exact absurd quiet ends
    | @rejected _ _ error _ last =>
      have auth := (Inquiry.verdict_eq_error.mp last).2.2
      exact ⟨error, rfl, isOutOfRange_of_isAuth auth⟩
  · intro error failed reported
    cases operation : e.operation with
    | resolve => exact surfaced_of_resolve sound operation failed reported
    | isTrustedDomain => exact surfaced_of_isTrustedDomain sound operation failed reported
    | controller => exact surfaced_of_controller sound operation failed reported
    | insert | invalidateDomains => rw [operation] at looks; cases looks
  · intro error failed spoils
    rw [failed] at surfaces
    generalize (r.perform e).asked = asked at surfaces
    cases surfaces with
    | rejected _ last =>
      have auth := (Inquiry.verdict_eq_error.mp last).2.2
      cases (isOutOfRange_of_isAuth auth).symm.trans spoils
    | late _ among clock => exact ⟨_, among, clock⟩

theorem perform_error_iff_rejected_strict :
    let r := Resolver.ofConfig { Config.standard 0 "" with dfsStrictView := true }
    let rejection := Error.auth .logonFailure
    let e : Event Unit := ⟨0, corp (.error rejection), (), .resolve "corp" "data" none⟩
    r.poisoned = false ∧ e.operation.looksUp = true ∧ (r.perform e).asked.length = 3 ∧
      (r.perform e).outcome = .error rejection ∧ Surfaced r e (r.perform e) rejection := by
  intro r rejection e
  have failed : (r.perform e).outcome = .error rejection := by decide +kernel
  exact ⟨rfl, rfl, by decide +kernel, failed,
    (perform_error_iff_rejected (r := r) (e := e) rfl rfl).2.1 rejection failed rfl⟩

end Smb1.Dfs
