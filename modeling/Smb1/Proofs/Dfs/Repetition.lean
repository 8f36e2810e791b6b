import Smb1.Proofs.Dfs.Lifetimes
import Smb1.Proofs.Dfs.Missing

/-! How often one call asks the same. The list of domains, a controller and a root are asked for
once at most, unless the root has no entry and is entered with a referral without a lifetime: that
one has run out by the time it is looked at, so controller and root are asked once more. -/
namespace Smb1.Dfs

open Transaction
open Lookup (joined)

variable {σ : Type} {settings : Settings} {now : Moment} {domain root : String}
  {path user : Option String} {asked rest : List Inquiry} {r : Resolver} {e : Event σ}

/-- How often a path was asked for. -/
def timesAsked (path : String) (asked : List Inquiry) : Nat := asked.countP (·.path = path)

/-- The list of domains, a controller and the root were asked for so often, and nothing else. -/
structure Tally (domain root : String) (asked : List Inquiry) (lists controllers roots : Nat) :
    Prop where
  ofList : timesAsked "" asked = lists
  ofController : timesAsked ("\\" ++ domain) asked = controllers
  ofRoot : timesAsked (joined domain root) asked = roots
  total : asked.length = lists + controllers + roots

namespace Tally

variable {q : Inquiry} {lists controllers roots lists' controllers' roots' : Nat}

theorem nil : Tally domain root [] 0 0 0 := ⟨rfl, rfl, rfl, rfl⟩

theorem append (first : Tally domain root asked lists controllers roots)
    (second : Tally domain root rest lists' controllers' roots') :
    Tally domain root (asked ++ rest) (lists + lists') (controllers + controllers')
      (roots + roots') where
  ofList := by rw [← first.ofList, ← second.ofList]; exact List.countP_append
  ofController := by rw [← first.ofController, ← second.ofController]; exact List.countP_append
  ofRoot := by rw [← first.ofRoot, ← second.ofRoot]; exact List.countP_append
  total := by
    rw [List.length_append, first.total, second.total]
    omega

theorem list (path : q.path = "") : Tally domain root [q] 1 0 0 := by
  have controller := path_ne_empty domain root (.inl rfl)
  have joined := path_ne_empty domain root (.inr rfl)
  constructor <;> simp [timesAsked, path, controller.symm, joined.symm]

theorem controller (path : q.path = "\\" ++ domain) : Tally domain root [q] 0 1 0 := by
  have list := path_ne_empty domain root (.inl rfl)
  have joined := joined_ne domain root
  constructor <;> simp [timesAsked, path, list, joined]

theorem rooted (path : q.path = joined domain root) : Tally domain root [q] 0 0 1 := by
  have list := path_ne_empty domain root (.inr rfl)
  have controller := joined_ne domain root
  constructor <;> simp [timesAsked, path, list, controller.symm]

end Tally

/-- The first answer about a root is a referral without a lifetime. -/
def AnsweredLapsed (settings : Settings) (now : Moment) (domain root : String)
    (asked : List Inquiry) : Prop :=
  ∃ q raw, asked.find? (·.path = joined domain root) = some q ∧
    q.verdict settings now = .ok (some raw) ∧ raw.ttl = 0

instance : Decidable (AnsweredLapsed settings now domain root asked) :=
  decidable_of_iff ((asked.find? (·.path = joined domain root)).any fun q =>
      ((q.verdict settings now).toOption.bind id).any (·.ttl = 0))
    (by simp only [AnsweredLapsed, Option.any_eq_true, toOption_bind_id_eq_some,
      decide_eq_true_eq, exists_and_left])

theorem AnsweredLapsed.append (answered : AnsweredLapsed settings now domain root asked)
    (rest : List Inquiry) : AnsweredLapsed settings now domain root (asked ++ rest) := by
  obtain ⟨q, raw, first, answered, lapsed⟩ := answered
  exact ⟨q, raw, by rw [List.find?_append, first, Option.some_or], answered, lapsed⟩

/-- The list of domains is no root. -/
theorem answeredLapsed_append_iff (list : ∀ q ∈ asked, q.path = "") :
    AnsweredLapsed settings now domain root (asked ++ rest) ↔
      AnsweredLapsed settings now domain root rest := by
  have none : asked.find? (·.path = joined domain root) = none := by
    simp only [List.find?_eq_none, decide_eq_true_eq]
    intro q among named
    exact path_ne_empty domain root (.inr named) (list q among)
  simp only [AnsweredLapsed, List.find?_append, none, Option.none_or]

theorem not_answeredLapsed_nil : ¬AnsweredLapsed settings now domain root [] := by
  rintro ⟨q, raw, ⟨⟩, -⟩

namespace AsksRoot

variable {outcome : Except Error (Option Referral)}

theorem tally (asks : AsksRoot settings now domain root asked outcome) :
    ∃ roots ≤ 1, Tally domain root asked 0 1 roots := by
  cases asks with
  | refused path | unled path => exact ⟨0, Nat.zero_le 1, .controller path⟩
  | led path _ _ path' => exact ⟨1, Nat.le_refl 1, (Tally.controller path).append (.rooted path')⟩

/-- What is found runs out at once if it has no lifetime. -/
theorem answeredLapsed_iff (asks : AsksRoot settings now domain root asked outcome) :
    AnsweredLapsed settings now domain root asked ↔
      ∃ referral, outcome = .ok (some referral) ∧ referral.expiration ≤ now := by
  have unled {q : Inquiry} (path : q.path = "\\" ++ domain) :
      ¬AnsweredLapsed settings now domain root [q] := by
    rintro ⟨other, raw, first, -⟩
    simp [path, joined_ne domain root] at first
  cases asks with
  | refused path | unled path => exact iff_of_false (unled path) (by simp)
  | @led q next controller path _ _ path' =>
    have first : [q, next].find? (·.path = joined domain root) = some next := by
      simp [path, path', joined_ne domain root]
    constructor
    · rintro ⟨other, raw, found, answered, lapsed⟩
      obtain rfl := Option.some.inj (first.symm.trans found)
      have ends := Inquiry.expiration_of_verdict answered
      refine ⟨raw.atRoot domain root, by rw [answered]; rfl, ?_⟩
      rw [lapsed] at ends
      exact Nat.le_of_eq ends
    · rintro ⟨referral, found, past⟩
      obtain ⟨raw, answered, rfl⟩ := map_atRoot_eq_some.mp found
      have ends := Inquiry.expiration_of_verdict answered
      have none : raw.ttl.toNat * 1000 ≤ 0 :=
        Nat.le_of_add_le_add_left (ends ▸ (past : raw.expiration ≤ now))
      refine ⟨next, raw, first, answered, UInt32.toNat_inj.mp ?_⟩
      rw [UInt32.toNat_zero]
      omega

end AsksRoot

/-- A root without an entry is entered with a referral that has run out already. -/
structure Lapses (settings : Settings) (now : Moment) (domain root : String)
    (stands : Option RootEntry) (asked : List Inquiry) : Prop where
  gone : stands = none
  answered : AnsweredLapsed settings now domain root asked
  clock : ∃ expiration, now.later settings.ttl = .ok expiration

/-- A controller and the root are asked for in one round, or in two. -/
def Rounds (domain root : String) (asked : List Inquiry) (lists : Nat) (two : Prop) : Prop :=
  ∃ controllers roots, Tally domain root asked lists controllers roots ∧
    (¬two → controllers ≤ 1 ∧ roots ≤ 1) ∧ (two → controllers = 2 ∧ roots ≤ 2)

namespace Rounds

variable {two other : Prop} {lists : Nat}

theorem none (counted : Tally domain root asked lists 0 0) (one : ¬two) :
    Rounds domain root asked lists two :=
  ⟨0, 0, counted, fun _ => ⟨Nat.zero_le 1, Nat.zero_le 1⟩, fun again => absurd again one⟩

theorem single {outcome : Except Error (Option Referral)}
    (asks : AsksRoot settings now domain root asked outcome) (one : ¬two) :
    Rounds domain root asked 0 two := by
  obtain ⟨roots, few, counted⟩ := asks.tally
  exact ⟨1, roots, counted, fun _ => ⟨Nat.le_refl 1, few⟩, fun again => absurd again one⟩

/-- The list of domains is asked for before. -/
theorem behind (first : Tally domain root asked lists 0 0) (later : Rounds domain root rest 0 two)
    (same : two ↔ other) : Rounds domain root (asked ++ rest) lists other := by
  obtain ⟨controllers, roots, counted, once, twice⟩ := later
  have counted := first.append counted
  rw [Nat.zero_add, Nat.zero_add] at counted
  exact ⟨controllers, roots, counted, fun one => once (mt same.mp one),
    fun again => twice (same.mpr again)⟩

end Rounds

theorem Course.rounds {stands after : Option RootEntry} {outcome : Except Error (Option Referral)}
    (course : Course settings now domain root stands asked outcome after) :
    Rounds domain root asked 0 (Lapses settings now domain root stands asked) := by
  -- only a referral that has just been entered can lapse, and then a second round follows
  cases course with
  | refused asks | missing asks =>
    apply Rounds.single asks
    intro lapses
    obtain ⟨_, ⟨⟩, -⟩ := asks.answeredLapsed_iff.mp lapses.answered
  | late asks clock =>
    apply Rounds.single asks
    intro lapses
    obtain ⟨expiration, shown⟩ := lapses.clock
    cases clock.symm.trans shown
  | entered asks clock alive =>
    apply Rounds.single asks
    intro lapses
    obtain ⟨_, ⟨⟩, past⟩ := asks.answeredLapsed_iff.mp lapses.answered
    exact absurd past (Nat.not_le.mpr alive)
  | @lapsed first rest _ expiration _ _ asks clock past again =>
    obtain ⟨roots, few, counted⟩ := asks.tally
    obtain ⟨roots', few', counted'⟩ := again.tally
    have lapses : Lapses settings now domain root none (first ++ rest) :=
      ⟨rfl, (asks.answeredLapsed_iff.mpr ⟨_, rfl, past⟩).append rest, expiration, clock⟩
    exact ⟨_, _, counted.append counted', absurd lapses, fun _ => ⟨rfl, Nat.add_le_add few few'⟩⟩
  | known | served => exact .none .nil fun lapses => nomatch lapses.gone
  | renewed _ asks => exact .single asks fun lapses => nomatch lapses.gone

theorem Lists.tally (domain root : String) {before after : Option (Cached (KeyMap Roots))}
    {outcome : Except Error Bool} (lists : Lists settings now user before asked outcome after) :
    ∃ count ≤ 1, Tally domain root asked count 0 0 := by
  cases lists with
  | live | userless => exact ⟨0, Nat.zero_le 1, .nil⟩
  | refused _ path | unanswered _ path | late _ path | loaded _ path =>
    exact ⟨1, Nat.le_refl 1, .list path⟩

/-- A root that has no live entry is entered with a referral that has run out already. -/
structure EntersLapsed (settings : Settings) (now : Moment) (domain root : String)
    (domains : Option (Cached (KeyMap Roots))) (asked : List Inquiry) : Prop where
  gone : ∀ tier, domains = some tier → now < tier.expiration →
    standing now (root? tier (Text.toLower domain) (Text.toLower root)) = none
  answered : AnsweredLapsed settings now domain root asked
  clock : ∃ expiration, now.later settings.ttl = .ok expiration

/-- Without a question for a root, nothing is entered. -/
theorem not_entersLapsed {domains : Option (Cached (KeyMap Roots))}
    (list : ∀ q ∈ asked, q.path = "") :
    ¬EntersLapsed settings now domain root domains asked := by
  intro enters
  have answered := enters.answered
  rw [← List.append_nil asked, answeredLapsed_append_iff list] at answered
  exact not_answeredLapsed_nil answered

theorem Trusts.rounds {c c' : Cache} {outcome : Except Error (Option Referral)}
    (trusts : Trusts settings now user domain root c asked outcome c') :
    ∃ lists ≤ 1, Rounds domain root asked lists
      (EntersLapsed settings now domain root c.domains asked) := by
  cases trusts with
  | failed lists | unknown lists | unlisted lists =>
    obtain ⟨count, few, counted⟩ := lists.tally domain root
    exact ⟨count, few, .none counted (not_entersLapsed fun q => lists.path_of_mem)⟩
  | @listed first rest tier roots after _ lists listed resolves _ =>
    obtain ⟨count, few, counted⟩ := lists.tally domain root
    have entry : root? tier (Text.toLower domain) (Text.toLower root) =
        roots.find? (Text.toLower root) := by
      rw [root?, listed, Option.bind_some]
    -- a list that has just been loaded has no entries, and neither has one that has run out
    refine ⟨count, few, resolves.course.rounds.behind counted ⟨?_, ?_⟩⟩
    · rintro ⟨gone, answered, clock⟩
      refine ⟨?_, (answeredLapsed_append_iff fun q => lists.path_of_mem).mpr answered, clock⟩
      intro other there live
      obtain ⟨same, -, -⟩ | ⟨stale, -⟩ := lists.live_or_blank
      · obtain rfl := Option.some.inj (there.symm.trans same)
        exact entry ▸ gone
      · exact absurd live (Nat.not_lt.mpr (stale other there))
    · rintro ⟨gone, answered, clock⟩
      refine ⟨?_, (answeredLapsed_append_iff fun q => lists.path_of_mem).mp answered, clock⟩
      obtain ⟨same, live, -⟩ | ⟨-, -, blank⟩ := lists.live_or_blank
      · exact entry ▸ gone tier same live
      · rw [← entry, blank]
        rfl

/-- One call asks for the list of domains once at most, and so it does for a controller and for the
root, unless it enters the root with a referral that has run out already. Then it asks for both
twice, as far as the second controller is found. -/
theorem resolve_timesAsked (asks : e.operation = .resolve domain root path) :
    let asked := (r.perform e).asked
    let lapsed := EntersLapsed r.settings e.now domain root r.cache.domains asked
    timesAsked "" asked ≤ 1 ∧
      (¬lapsed → timesAsked ("\\" ++ domain) asked ≤ 1 ∧
        timesAsked (joined domain root) asked ≤ 1 ∧ asked.length ≤ 3) ∧
      (lapsed → timesAsked ("\\" ++ domain) asked = 2 ∧
        timesAsked (joined domain root) asked ≤ 2 ∧ asked.length ≤ 5) := by
  intro asked lapsed
  obtain ⟨lists, few, controllers, roots, counted, once, twice⟩ :
      ∃ lists ≤ 1, Rounds domain root asked lists lapsed := by
    cases resolving : r.resolves root with
    | false =>
      have unasked : asked = [] := (perform_of_not_resolves resolving asks).1
      have kept : ¬lapsed := not_entersLapsed (by simp [unasked])
      exact ⟨0, Nat.zero_le 1, .none (unasked ▸ .nil) kept⟩
    | true =>
      obtain ⟨outcome, c, resolved⟩ := exists_resolved resolving asks
      exact resolved.trusts.rounds
  rw [counted.ofList, counted.ofController, counted.ofRoot, counted.total]
  refine ⟨few, ?_, ?_⟩
  · intro one
    obtain ⟨controller, root⟩ := once one
    exact ⟨controller, root, by omega⟩
  · intro again
    obtain ⟨controller, root⟩ := twice again
    exact ⟨controller, root, by omega⟩

/-- A referral that lives on is asked for once. -/
theorem resolve_timesAsked_lasting :
    let r := Resolver.ofConfig (Config.standard 0 "")
    let asked := (r.perform (asking 0 (.ok (leadingFor 600)))).asked
    timesAsked "\\corp" asked ≤ 1 ∧ timesAsked "\\corp\\data" asked ≤ 1 ∧ asked.length ≤ 3 := by
  intro r asked
  have counted := resolve_timesAsked (r := r) (e := asking 0 (.ok (leadingFor 600))) rfl
  have lasts : ¬AnsweredLapsed r.settings 0 "corp" "data" asked := by decide +kernel
  exact counted.2.1 fun lapsed => lasts lapsed.answered

/-- A referral without a lifetime is asked for twice by one call, and so is the controller. -/
theorem resolve_timesAsked_lapsed :
    let r := Resolver.ofConfig (Config.standard 0 "")
    let p := r.perform (asking 0 (.ok (leadingFor 0)))
    p.asked.map (·.path) = ["", "\\corp", "\\corp\\data", "\\corp", "\\corp\\data"] ∧
      timesAsked "\\corp" p.asked = 2 ∧ timesAsked "\\corp\\data" p.asked = 2 := by
  decide +kernel

end Smb1.Dfs
