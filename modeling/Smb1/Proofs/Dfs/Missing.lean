import Smb1.Proofs.Dfs.Roots

/-! Roots that cannot be found. Such a root is entered as one, and then neither it nor a controller
of its domain is asked for again as long as the list of domains lives. That is not so for a root
that has been found before: when its referral has run out inside its entry, a failure leaves the
entry empty, and every later call asks again. -/
namespace Smb1.Dfs

open Transaction
open Lookup (joined)

variable {σ : Type} {settings : Settings} {now : Moment} {r : Resolver} {e : Event σ}
  {domain root : String} {path : Option String} {asked : List Inquiry}

/-- Nothing has been found of a root so far: it has no live entry with a referral, and no answer
names a target of it. -/
structure Unfound (r : Resolver) (now : Moment) (domain root : String) (asked : List Inquiry) :
    Prop where
  unentered : ∀ tier entry, r.cache.domains = some tier → now < tier.expiration →
    root? tier (Text.toLower domain) (Text.toLower root) = some (.found entry) →
      entry.expiration ≤ now
  unanswered : ∀ q ∈ asked, q.path = joined domain root → q.verdict r.settings now = .ok none

theorem joined_ne (domain root : String) : "\\" ++ domain ≠ joined domain root := by
  intro same
  have length := congrArg String.length same
  rw [joined, String.length_append, String.length_append, String.length_append,
    String.length_append, show ("\\").length = 1 from rfl] at length
  omega

/-- A root that is not found is not answered for on the way. -/
theorem AsksRoot.unanswered (asks : AsksRoot settings now domain root asked (.ok none))
    {q : Inquiry} (among : q ∈ asked) (path : q.path = joined domain root) :
    q.verdict settings now = .ok none := by
  generalize decided : (Except.ok none : Except Error (Option Referral)) = outcome at asks
  cases asks with
  | refused => cases decided
  | unled _ answered =>
    rw [List.mem_singleton.mp among]
    exact answered
  | @led first next controller named answered _ _ =>
    obtain rfl | among := List.mem_cons.mp among
    · exact absurd (named.symm.trans path) (joined_ne domain root)
    · rw [List.mem_singleton.mp among]
      exact (map_atRoot_eq_none.mp decided.symm).trans decided

theorem AsksRoot.answered {referral : Referral}
    (asks : AsksRoot settings now domain root asked (.ok (some referral))) :
    ∃ q ∈ asked, q.path = joined domain root ∧ q.verdict settings now ≠ .ok none := by
  obtain ⟨q, raw, last, path, answered, -⟩ := (asks.fetched_iff []).mpr rfl
  exact ⟨q, List.mem_of_getLast? last, path, by rw [answered]; nofun⟩

/-- What a failed look at a root leaves behind. -/
theorem exists_holds_of_failed (asks : e.operation = .resolve domain root path)
    (failed : RootFailed r.settings e.now domain root (r.perform e).asked) :
    ∃ ends, (Unfound r e.now domain root (r.perform e).asked →
        Holds (r.perform e).resolver (Text.toLower domain) (Text.toLower root) ends .negative) ∧
      (¬Unfound r e.now domain root (r.perform e).asked → ∃ expiration,
        Holds (r.perform e).resolver (Text.toLower domain) (Text.toLower root) ends
          (.found ⟨expiration, none⟩)) := by
  cases resolving : r.resolves root with
  | false =>
    obtain ⟨q, last, -⟩ := failed
    rw [(perform_of_not_resolves resolving asks).1] at last
    cases last
  | true =>
    obtain ⟨outcome, c, resolved⟩ := exists_resolved resolving asks
    obtain ⟨q, last, named, -⟩ := id failed
    obtain ⟨first, rest, before, after, tier, whole, list, resolves, there, entered, origin⟩ :=
      resolved.trusts.exists_resolves last named
    rw [whole] at failed
    have domains := resolved.domains.trans there
    refine ⟨tier.expiration, ?_⟩
    obtain ⟨gone, inVain, rfl⟩ | ⟨expiration, rfl, before_or_asked⟩ :=
      (resolves.of_failed (failed.of_append list)).2
    · refine ⟨fun _ => ⟨tier, domains, rfl, entered⟩, fun known => absurd ⟨?_, ?_⟩ known⟩
      · intro was entry was_there live was_entered
        obtain ⟨_, same, -, -, was_before⟩ | ⟨stale, -⟩ := origin
        · obtain rfl := Option.some.inj (was_there.symm.trans same)
          exact expired_of_standing gone (was_before.symm.trans was_entered)
        · exact absurd live (Nat.not_lt.mpr (stale was was_there))
      · intro q among path
        rw [whole, List.mem_append] at among
        obtain among | among := among
        · exact absurd (list q among) (path_ne_empty domain root (.inr path))
        · exact inVain.unanswered among path
    · refine ⟨fun unfound => ?_, fun _ => ⟨expiration, tier, domains, rfl, entered⟩⟩
      obtain ⟨value, stood⟩ | ⟨asked, again, referral, split, found⟩ := before_or_asked
      · obtain ⟨rfl, live⟩ := standing_eq_some stood
        obtain ⟨was, was_there, alive, -, was_entered⟩ | ⟨-, -, ⟨⟩⟩ := origin
        exact absurd (live _ rfl)
          (Nat.not_lt.mpr (unfound.unentered was _ was_there alive was_entered))
      · obtain ⟨q, among, path, answered⟩ := found.answered
        refine absurd (unfound.unanswered q ?_ path) answered
        rw [whole, split]
        exact List.mem_append_right _ (List.mem_append_left _ among)

/-- A call that resolves the same root, after others that leave the list of domains alone, all of
them before that list ends. -/
structure Follows (ends : Moment) (domain root : String) (events : List (Event σ)) (e : Event σ)
    (domain' root' : String) (path' : Option String) : Prop where
  spared : ∀ u ∈ events, u.now < ends ∧ u.operation ≠ .invalidateDomains
  early : e.now < ends
  asks : e.operation = .resolve domain' root' path'
  domains : Text.toLower domain' = Text.toLower domain
  roots : Text.toLower root' = Text.toLower root

/-- A call for a root asks nothing, and finds no referral of the root. -/
structure Skips (r : Resolver) (e : Event σ) (domain root : String) (path : Option String) :
    Prop where
  unasked : (r.perform e).asked = []
  unfound : ∀ referral, ¬FindsRoot r e domain root referral
  unanswered : path = none → ∀ answer, (r.perform e).outcome = .ok answer →
    answer = .referral none

variable {ends : Moment} {events : List (Event σ)} {domain' root' : String} {path' : Option String}

/-- A root that is known to be missing is neither asked for nor found. -/
theorem Holds.skips (holds : Holds r (Text.toLower domain) (Text.toLower root) ends .negative)
    (follows : Follows ends domain root events e domain' root' path') :
    Skips (r.performAll events).2 e domain' root' path' := by
  have lasts := holds.performAll events (fun u among => (follows.spared u among).1)
    (fun u among => (follows.spared u among).2) (fun _ _ _ => trivial)
  obtain ⟨unasked, -, missed⟩ :=
    lasts.perform_settled follows.early trivial follows.asks ⟨follows.domains, follows.roots⟩
  refine ⟨unasked, fun referral finds => ?_, ?_⟩
  · obtain ⟨c, resolved⟩ := missed finds.1
    cases (resolved.finds referral).mp finds
  · rintro rfl answer answered
    cases resolving : (r.performAll events).2.resolves root' with
    | false =>
      obtain ⟨-, -, nothing | ⟨-, refused⟩⟩ := perform_of_not_resolves resolving follows.asks
      · exact Except.ok.inj (answered.symm.trans nothing)
      · cases answered.symm.trans refused
    | true =>
      obtain ⟨c, resolved⟩ := missed resolving
      obtain ⟨nothing, -⟩ | ⟨below, -⟩ := resolved.missed rfl
      · exact Except.ok.inj (answered.symm.trans nothing)
      · exact absurd rfl below

/-- An entry without a referral makes the next call for its root ask a controller again. -/
theorem Holds.exists_asked {expiration : Moment}
    (holds : Holds r (Text.toLower domain) (Text.toLower root) ends (.found ⟨expiration, none⟩))
    (follows : Follows ends domain root events e domain' root' path')
    (first : ∀ u ∈ events, u.operation.requests (Text.toLower domain) (Text.toLower root) = false)
    (resolving : (r.performAll events).2.resolves root' = true) :
    ∃ q ∈ ((r.performAll events).2.perform e).asked, q.path = "\\" ++ domain' := by
  have lasts := holds.performAll events (fun u among => (follows.spared u among).1)
    (fun u among => (follows.spared u among).2)
    (fun u among requested => by simp [first u among] at requested)
  obtain ⟨_, _, _, -, resolves, -⟩ :=
    lasts.exists_resolves follows.early resolving follows.asks ⟨follows.domains, follows.roots⟩
  obtain ⟨_, ⟨⟩, ⟨-, _, ⟨⟩, -⟩, -⟩ | ⟨-, asked⟩ := resolves.settled_or_asks
  exact asked

/-- A root that cannot be found is not asked for again before the list of domains ends, whatever is
called in between. One that had been found before the failure, in an entry that is still live or by
the same call, is: its entry is left empty, and the next call asks a controller again. -/
theorem resolve_afterFailure (asks : e.operation = .resolve domain root path)
    (failed : RootFailed r.settings e.now domain root (r.perform e).asked) :
    let left := (r.perform e).resolver
    ∃ tier, left.cache.domains = some tier ∧
      (Unfound r e.now domain root (r.perform e).asked →
        ∀ (events : List (Event σ)) (e' : Event σ) (domain' root' : String)
          (path' : Option String),
        Follows tier.expiration domain root events e' domain' root' path' →
          Skips (left.performAll events).2 e' domain' root' path') ∧
      (¬Unfound r e.now domain root (r.perform e).asked →
        ∀ (events : List (Event σ)) (e' : Event σ) (domain' root' : String)
          (path' : Option String),
        Follows tier.expiration domain root events e' domain' root' path' →
        (∀ u ∈ events,
          u.operation.requests (Text.toLower domain) (Text.toLower root) = false) →
        (left.performAll events).2.resolves root' = true →
          ∃ q ∈ ((left.performAll events).2.perform e').asked, q.path = "\\" ++ domain') := by
  obtain ⟨ends, kept, lapsed⟩ := exists_holds_of_failed asks failed
  by_cases unfound : Unfound r e.now domain root (r.perform e).asked
  · obtain ⟨tier, there, rfl, entered⟩ := kept unfound
    refine ⟨tier, there, fun _ events e' domain' root' path' follows => ?_, absurd unfound⟩
    exact Holds.skips ⟨tier, there, rfl, entered⟩ follows
  · obtain ⟨expiration, tier, there, rfl, entered⟩ := lapsed unfound
    refine ⟨tier, there, fun known => absurd known unfound, ?_⟩
    intro _ events e' domain' root' path' follows first resolving
    exact Holds.exists_asked ⟨tier, there, rfl, entered⟩ follows first resolving

theorem resolve_afterFailure_refused :
    let r := Resolver.ofConfig (Config.standard 0 "")
    let e := asking 0 (.error (.io .refused))
    let left := (r.perform e).resolver
    let back := corp (.ok (leadingFor 600))
    let other : Event Unit := ⟨1000, back, (), .resolve "corp" "home" none⟩
    RootFailed r.settings e.now "corp" "data" (r.perform e).asked ∧
      Skips (left.performAll [other]).2 ⟨2000, back, (), .resolve "CORP" "Data" none⟩ "CORP" "Data"
        none := by
  intro r e left back other
  have failed : RootFailed r.settings e.now "corp" "data" (r.perform e).asked := by decide +kernel
  obtain ⟨tier, there, skipped, -⟩ := resolve_afterFailure (r := r) (e := e) rfl failed
  have ends : tier.expiration = 3000000 := by
    have shown : (r.perform e).resolver.cache.domains.map (·.expiration) = some 3000000 := by
      decide +kernel
    rw [there] at shown
    exact Option.some.inj shown
  have unfound : Unfound r e.now "corp" "data" (r.perform e).asked :=
    ⟨fun _ _ => nofun, by decide +kernel⟩
  refine ⟨failed, skipped unfound _ _ _ _ _ ⟨?_, ?_, rfl, by decide +kernel, by decide +kernel⟩⟩
  · intro u among
    obtain rfl := List.mem_singleton.mp among
    rw [ends]
    exact ⟨by decide +kernel, nofun⟩
  · rw [ends]
    decide +kernel

/-- When the referral of a root has run out and its controller is gone, every call asks for it. -/
theorem resolve_lapsedRoot :
    let found := (Resolver.ofConfig (Config.standard 0 "")).perform (asking 0 (.ok (leadingFor 5)))
    let e := asking 6000 (.error (.io .refused))
    let failed := found.resolver.perform e
    let again := failed.resolver.perform e
    RootFailed found.resolver.settings e.now "corp" "data" failed.asked ∧
      failed.outcome = .ok (.referral none) ∧
      failed.resolver.cache.domains.any (6000 < ·.expiration) ∧
      ∃ q ∈ again.asked, q.path = "\\corp" := by
  decide +kernel

end Smb1.Dfs
