import Smb1.Proofs.Dfs.Calls

/-! Entries of roots over time. An entry changes only when its root is resolved, or with the whole
list of domains. -/
namespace Smb1.Dfs

open Transaction
open Lookup (joined cachedRoot?)

variable {σ : Type} {settings : Settings} {now : Moment} {domain root domainKey rootKey : String}
  {user : Option String} {asked : List Inquiry}

/-- The entry of a root in a list of domains. -/
def root? (tier : Cached (KeyMap Roots)) (domainKey rootKey : String) : Option RootEntry :=
  (tier.value.find? domainKey).bind (·.find? rootKey)

theorem cachedRoot?_eq (c : Cache) (domainKey rootKey : String) :
    cachedRoot? c domainKey rootKey = c.domains.bind (root? · domainKey rootKey) := by
  obtain ⟨domains, standalone⟩ := c
  cases domains <;> rfl

theorem find?_foldl_insert {α : Type} {p : α → Prop} (entries : List (String × α)) (m : KeyMap α)
    (start : ∀ key value, m.find? key = some value → p value) (all : ∀ entry ∈ entries, p entry.2)
    {key : String} {value : α}
    (found : (entries.foldl (fun m entry => m.insert entry.1 entry.2) m).find? key = some value) :
    p value := by
  induction entries generalizing m with
  | nil => exact start key value found
  | cons entry entries ih =>
    refine ih _ (fun key value found => ?_) (fun other among => all other (.tail _ among)) found
    rw [KeyMap.find?_insert] at found
    split at found
    · exact Option.some.inj found ▸ all entry (.head _)
    · exact start key value found

/-- A list of domains that has just been loaded has no roots. -/
theorem root?_ofList (expiration : Moment) (servers : List Target) (domainKey rootKey : String) :
    root? ⟨expiration, .ofList (servers.map fun target =>
      (Text.toLower target.server, KeyMap.empty))⟩ domainKey rootKey = none := by
  unfold root?
  dsimp only
  cases listed : (KeyMap.ofList (servers.map fun target =>
      (Text.toLower target.server, (KeyMap.empty : Roots)))).find? domainKey with
  | none => rfl
  | some roots =>
    have blank : roots = .empty := find?_foldl_insert (p := (· = .empty)) _ _ nofun
      (by simp) listed
    rw [blank]
    rfl

/-- A live list of domains is not asked for. -/
theorem Lists.of_live {tier : Cached (KeyMap Roots)} {outcome : Except Error Bool}
    {after : Option (Cached (KeyMap Roots))}
    (lists : Lists settings now user (some tier) asked outcome after)
    (live : now < tier.expiration) : asked = [] ∧ outcome = .ok true ∧ after = some tier := by
  have outdated : ¬∀ other, some tier = some other → other.expiration ≤ now := fun stale =>
    absurd live (Nat.not_lt.mpr (stale tier rfl))
  cases lists with
  | live => exact ⟨rfl, rfl, rfl⟩
  | userless stale | refused stale | unanswered stale | late stale | loaded stale =>
    exact absurd stale outdated

/-- A list of domains that is there was live, or has no roots yet. -/
theorem Lists.live_or_blank {before : Option (Cached (KeyMap Roots))}
    {tier : Cached (KeyMap Roots)} {outcome : Except Error Bool}
    (lists : Lists settings now user before asked outcome (some tier)) :
    (before = some tier ∧ now < tier.expiration ∧ asked = []) ∨
      ((∀ other, before = some other → other.expiration ≤ now) ∧
        now.later (settings.ttl * Lookup.domainTtlFactor) = .ok tier.expiration ∧
        ∀ domainKey rootKey, root? tier domainKey rootKey = none) := by
  cases lists with
  | live live => exact .inl ⟨rfl, live, rfl⟩
  | loaded stale _ _ clock => exact .inr ⟨stale, clock, root?_ofList _ _⟩

/-- All that is asked for a list of domains has no path. -/
theorem Lists.path_of_mem {before after : Option (Cached (KeyMap Roots))}
    {outcome : Except Error Bool} (lists : Lists settings now user before asked outcome after)
    {q : Inquiry} (among : q ∈ asked) : q.path = "" := by
  cases lists with
  | live | userless => cases among
  | refused _ path | unanswered _ path | late _ path | loaded _ path =>
    rw [List.mem_singleton.mp among]
    exact path

/-- The last question was for a root or for a controller of its domain, and was in vain. -/
def RootFailed (settings : Settings) (now : Moment) (domain root : String)
    (asked : List Inquiry) : Prop :=
  ∃ q, asked.getLast? = some q ∧ (q.path = "\\" ++ domain ∨ q.path = joined domain root) ∧
    q.verdict settings now = .ok none

/-- The last question was for a root, and its answer is a referral that is kept like this. -/
def RootFetched (settings : Settings) (now : Moment) (domain root : String)
    (asked : List Inquiry) (referral : Referral) : Prop :=
  ∃ q raw, asked.getLast? = some q ∧ q.path = joined domain root ∧
    q.verdict settings now = .ok (some raw) ∧ raw.atRoot domain root = referral

instance : Decidable (RootFailed settings now domain root asked) :=
  decidable_of_iff (asked.getLast?.any fun q =>
      (q.path = "\\" ++ domain ∨ q.path = joined domain root) ∧ q.verdict settings now = .ok none)
    (by simp [RootFailed, Option.any_eq_true])

/-- The referral that the answer to the last question amounts to, when that was for a root. -/
def lastFetched? (settings : Settings) (now : Moment) (domain root : String)
    (asked : List Inquiry) : Option Referral :=
  (asked.getLast?.filter (·.path = joined domain root)).bind fun q =>
    ((q.verdict settings now).toOption.bind id).map (·.atRoot domain root)

theorem toOption_bind_id_eq_some {found : Except Error (Option Referral)} {referral : Referral} :
    found.toOption.bind id = some referral ↔ found = .ok (some referral) := by
  cases found <;> simp [Except.toOption]

theorem rootFetched_iff {referral : Referral} :
    RootFetched settings now domain root asked referral ↔
      lastFetched? settings now domain root asked = some referral := by
  rw [RootFetched, lastFetched?, Option.bind_eq_some_iff]
  simp only [Option.filter_eq_some_iff, Option.map_eq_some_iff, toOption_bind_id_eq_some,
    decide_eq_true_eq, and_assoc, exists_and_left]

theorem getLast?_append_of_eq_some (first : List Inquiry) {rest : List Inquiry} {q : Inquiry}
    (last : rest.getLast? = some q) : (first ++ rest).getLast? = some q := by
  rw [List.getLast?_append, last]
  rfl

theorem getLast?_or_mem {first rest : List Inquiry} {q : Inquiry}
    (last : (first ++ rest).getLast? = some q) : rest.getLast? = some q ∨ q ∈ first := by
  rw [List.getLast?_append] at last
  cases ends : rest.getLast? with
  | some other =>
    rw [ends] at last
    exact .inl last
  | none =>
    rw [ends] at last
    exact .inr (List.mem_of_getLast? last)

theorem path_ne_empty (domain root : String) {path : String}
    (named : path = "\\" ++ domain ∨ path = joined domain root) :
    path ≠ "" := by
  rintro rfl
  have longer : ∀ rest, "" ≠ "\\" ++ rest := fun rest same => by
    have length := congrArg String.length same
    rw [String.length_append, show ("\\").length = 1 from rfl, show ("").length = 0 from rfl]
      at length
    omega
  obtain same | same := named
  · exact longer _ same
  · rw [joined, String.append_assoc, String.append_assoc] at same
    exact longer _ same

/-- The list of domains has no path. -/
theorem RootFailed.of_append {first rest : List Inquiry}
    (failed : RootFailed settings now domain root (first ++ rest))
    (list : ∀ q ∈ first, q.path = "") : RootFailed settings now domain root rest := by
  obtain ⟨q, last, named, answered⟩ := failed
  obtain last | among := getLast?_or_mem last
  · exact ⟨q, last, named, answered⟩
  · exact absurd (list q among) (path_ne_empty domain root named)

theorem RootFetched.of_append {first rest : List Inquiry} {referral : Referral}
    (fetched : RootFetched settings now domain root (first ++ rest) referral)
    (list : ∀ q ∈ first, q.path = "") : RootFetched settings now domain root rest referral := by
  obtain ⟨q, raw, last, named, answered⟩ := fetched
  obtain last | among := getLast?_or_mem last
  · exact ⟨q, raw, last, named, answered⟩
  · exact absurd (list q among) (path_ne_empty domain root (.inr named))

theorem map_atRoot_eq_none {found : Except Error (Option Referral)} :
    found.map (·.map (·.atRoot domain root)) = .ok none ↔ found = .ok none := by
  rcases found with e | _ | raw <;> simp [Except.map]

theorem map_atRoot_eq_some {found : Except Error (Option Referral)} {referral : Referral} :
    found.map (·.map (·.atRoot domain root)) = .ok (some referral) ↔
      ∃ raw, found = .ok (some raw) ∧ raw.atRoot domain root = referral := by
  rcases found with e | _ | raw <;> simp [Except.map]

namespace AsksRoot

variable {outcome : Except Error (Option Referral)}

/-- A controller is asked for first. -/
theorem controller (asks : AsksRoot settings now domain root asked outcome) :
    ∃ q ∈ asked, q.path = "\\" ++ domain := by
  cases asks with
  | refused path | unled path | led path => exact ⟨_, .head _, path⟩

/-- The last question decides. Only a question for the root finds anything. -/
theorem last (asks : AsksRoot settings now domain root asked outcome) :
    ∃ q, asked.getLast? = some q ∧
      outcome = (q.verdict settings now).map (·.map (·.atRoot domain root)) ∧
      (q.path = "\\" ++ domain ∧ (∀ referral, outcome ≠ .ok (some referral)) ∨
        q.path = joined domain root) := by
  cases asks with
  | @refused q e path answered =>
    exact ⟨q, rfl, by rw [answered]; rfl, .inl ⟨path, fun _ => nofun⟩⟩
  | @unled q path answered =>
    exact ⟨q, rfl, by rw [answered]; rfl, .inl ⟨path, fun _ => nofun⟩⟩
  | @led q next controller path answered server path' => exact ⟨next, rfl, rfl, .inr path'⟩

theorem failed_iff (asks : AsksRoot settings now domain root asked outcome)
    (first : List Inquiry) :
    RootFailed settings now domain root (first ++ asked) ↔ outcome = .ok none := by
  obtain ⟨q, last, decides, path⟩ := asks.last
  replace last := getLast?_append_of_eq_some first last
  constructor
  · rintro ⟨q', last', -, failed⟩
    obtain rfl := Option.some.inj (last.symm.trans last')
    rw [decides, failed]
    rfl
  · rintro rfl
    exact ⟨q, last, path.imp_left And.left, map_atRoot_eq_none.mp decides.symm⟩

theorem fetched_iff {referral : Referral}
    (asks : AsksRoot settings now domain root asked outcome) (first : List Inquiry) :
    RootFetched settings now domain root (first ++ asked) referral ↔
      outcome = .ok (some referral) := by
  obtain ⟨q, last, decides, path⟩ := asks.last
  replace last := getLast?_append_of_eq_some first last
  constructor
  · rintro ⟨q', raw, last', -, answered, rfl⟩
    obtain rfl := Option.some.inj (last.symm.trans last')
    rw [decides, answered]
    rfl
  · rintro rfl
    obtain ⟨raw, answered, kept⟩ := map_atRoot_eq_some.mp decides.symm
    exact ⟨q, raw, last, path.resolve_left fun led => led.2 referral rfl, answered, kept⟩

end AsksRoot

namespace RootEntry

def referral? : RootEntry → Option Referral
  | negative => none
  | found entry => entry.value

/-- An entry that answers by itself at a time: no referral is to be found, or one that is live. -/
def Settled (now : Moment) : RootEntry → Prop
  | negative => True
  | found entry => now < entry.expiration ∧
      ∃ referral, entry.value = some referral ∧ now < referral.expiration

end RootEntry

theorem standing_eq_some {entry : RootEntry} {before : Option RootEntry}
    (stands : standing now before = some entry) :
    before = some entry ∧ ∀ found, entry = .found found → now < found.expiration := by
  obtain ⟨rfl, live⟩ := Option.filter_eq_some_iff.mp stands
  refine ⟨rfl, ?_⟩
  rintro found rfl
  simpa [Cached.isExpired] using live

theorem expired_of_standing {before : Option RootEntry}
    {entry : Cached (Option Referral)} (gone : standing now before = none)
    (there : before = some (.found entry)) : entry.expiration ≤ now := by
  rw [there, standing, Option.filter_some] at gone
  by_contra live
  simp [Cached.isExpired, live] at gone

theorem not_settled_of_standing {before : Option RootEntry} (gone : standing now before = none)
    (entry : RootEntry) (there : before = some entry) : ¬entry.Settled now := by
  subst there
  cases entry with
  | negative => cases gone
  | found entry =>
    exact fun settled => absurd settled.1 (Nat.not_lt.mpr (expired_of_standing gone rfl))

/-- The ways of resolving a root, by what stands of its entry. -/
inductive Course (settings : Settings) (now : Moment) (domain root : String) : Option RootEntry →
    List Inquiry → Except Error (Option Referral) → Option RootEntry → Prop
  | refused {asked : List Inquiry} {e : Error} :
      AsksRoot settings now domain root asked (.error e) →
      Course settings now domain root none asked (.error e) none
  | late {asked : List Inquiry} {referral : Referral} {e : Error} :
      AsksRoot settings now domain root asked (.ok (some referral)) →
      now.later settings.ttl = .error e →
      Course settings now domain root none asked (.error e) none
  | missing {asked : List Inquiry} : AsksRoot settings now domain root asked (.ok none) →
      Course settings now domain root none asked (.ok none) (some .negative)
  | entered {asked : List Inquiry} {referral : Referral} {expiration : Moment} :
      AsksRoot settings now domain root asked (.ok (some referral)) →
      now.later settings.ttl = .ok expiration → now < referral.expiration →
      Course settings now domain root none asked (.ok (some referral))
        (some (.found ⟨expiration, some referral⟩))
  /-- A referral without a lifetime is asked for twice. -/
  | lapsed {first rest : List Inquiry} {referral : Referral} {expiration : Moment}
      {outcome : Except Error (Option Referral)} {value : Option Referral} :
      AsksRoot settings now domain root first (.ok (some referral)) →
      now.later settings.ttl = .ok expiration → referral.expiration ≤ now →
      AsksRoot settings now domain root rest outcome → outcome.toOption.bind id = value →
      Course settings now domain root none (first ++ rest) outcome
        (some (.found ⟨expiration, value⟩))
  | known : Course settings now domain root (some .negative) [] (.ok none) (some .negative)
  | served {referral : Referral} {expiration : Moment} : now < referral.expiration →
      Course settings now domain root (some (.found ⟨expiration, some referral⟩)) []
        (.ok (some referral)) (some (.found ⟨expiration, some referral⟩))
  | renewed {asked : List Inquiry} {expiration : Moment}
      {outcome : Except Error (Option Referral)} {old value : Option Referral} :
      (∀ referral, old = some referral → referral.expiration ≤ now) →
      AsksRoot settings now domain root asked outcome → outcome.toOption.bind id = value →
      Course settings now domain root (some (.found ⟨expiration, old⟩)) asked outcome
        (some (.found ⟨expiration, value⟩))

namespace Resolves

variable {before after : Option RootEntry} {outcome : Except Error (Option Referral)}

theorem course (resolves : Resolves settings now domain root before asked outcome after) :
    Course settings now domain root (standing now before) asked outcome after := by
  cases resolves with
  | unentered enters =>
    generalize standing now before = left at enters ⊢
    cases enters with
    | refused asks => exact .refused asks
    | late asks clock => exact .late asks clock
  | entered enters renews =>
    generalize standing now before = left at enters ⊢
    cases enters with
    | there =>
      cases renews with
      | negative => exact .known
      | live alive => exact .served alive
      | renewed past asks | refused past asks => exact .renewed past asks rfl
    | negative asks =>
      cases renews
      rw [List.append_nil]
      exact .missing asks
    | found asks clock =>
      cases renews with
      | live alive =>
        rw [List.append_nil]
        exact .entered asks clock alive
      | renewed past again | refused past again => exact .lapsed asks clock (past _ rfl) again rfl

/-- An entry either answers by itself, and stays, or a controller of its domain is asked for. -/
theorem settled_or_asks (resolves : Resolves settings now domain root before asked outcome after) :
    (∃ entry, before = some entry ∧ entry.Settled now ∧ asked = [] ∧
      outcome = .ok entry.referral? ∧ after = some entry) ∨
    (∀ entry, before = some entry → ¬entry.Settled now) ∧
      ∃ q ∈ asked, q.path = "\\" ++ domain := by
  have course := resolves.course
  generalize held : standing now before = left at course
  cases course with
  | refused asks | late asks | missing asks | entered asks =>
    exact .inr ⟨not_settled_of_standing held, asks.controller⟩
  | lapsed asks =>
    obtain ⟨q, among, path⟩ := asks.controller
    exact .inr ⟨not_settled_of_standing held, q, List.mem_append_left _ among, path⟩
  | known =>
    obtain ⟨rfl, -⟩ := standing_eq_some held
    exact .inl ⟨_, rfl, trivial, rfl, rfl, rfl⟩
  | served alive =>
    obtain ⟨rfl, live⟩ := standing_eq_some held
    exact .inl ⟨_, rfl, ⟨live _ rfl, _, rfl, alive⟩, rfl, rfl, rfl⟩
  | renewed past asks =>
    obtain ⟨rfl, -⟩ := standing_eq_some held
    refine .inr ⟨?_, asks.controller⟩
    rintro _ ⟨⟩ ⟨-, referral, there, alive⟩
    exact absurd (past referral there) (Nat.not_le.mpr alive)

/-- An entry that is there afterwards was there before, or its referral has been fetched. -/
theorem kept_or_fetched {entry : RootEntry}
    (resolves : Resolves settings now domain root before asked outcome (some entry)) :
    before = some entry ∨ ∀ referral, entry.referral? = some referral →
      RootFetched settings now domain root asked referral := by
  have course := resolves.course
  generalize held : standing now before = left at course
  cases course with
  | missing => exact .inr fun _ => nofun
  | entered asks =>
    right
    rintro _ ⟨⟩
    exact (asks.fetched_iff []).mpr rfl
  | lapsed _ _ _ again kept =>
    exact .inr fun referral there =>
      (again.fetched_iff _).mpr (toOption_bind_id_eq_some.mp (kept.trans there))
  | known | served => exact .inl (standing_eq_some held).1
  | renewed _ asks kept =>
    exact .inr fun referral there =>
      (asks.fetched_iff []).mpr (toOption_bind_id_eq_some.mp (kept.trans there))

/-- A referral that has been fetched is found and kept, for as long as the entry that was there or
for a lifetime of its own, unless the clock cannot show that. -/
theorem of_fetched {referral : Referral}
    (resolves : Resolves settings now domain root before asked outcome after)
    (fetched : RootFetched settings now domain root asked referral) :
    (∃ e, outcome = .error e ∧ now.later settings.ttl = .error e) ∨
      outcome = .ok (some referral) ∧ ∃ expiration,
        after = some (.found ⟨expiration, some referral⟩) ∧
        ((∃ value, standing now before = some (.found ⟨expiration, value⟩) ∧
            ∀ old, value = some old → old.expiration ≤ now) ∨
          standing now before = none ∧ now.later settings.ttl = .ok expiration) := by
  have unasked : ¬RootFetched settings now domain root [] referral := fun ⟨_, _, last, _⟩ =>
    nomatch last
  have course := resolves.course
  generalize standing now before = left at course ⊢
  cases course with
  | refused asks | missing asks => cases (asks.fetched_iff []).mp fetched
  | late asks clock => exact .inl ⟨_, rfl, clock⟩
  | entered asks clock =>
    cases (asks.fetched_iff []).mp fetched
    exact .inr ⟨rfl, _, rfl, .inr ⟨rfl, clock⟩⟩
  | lapsed _ clock _ again kept =>
    obtain rfl := (again.fetched_iff _).mp fetched
    exact .inr ⟨rfl, _, by rw [← kept]; rfl, .inr ⟨rfl, clock⟩⟩
  | known | served => exact absurd fetched unasked
  | renewed past asks kept =>
    obtain rfl := (asks.fetched_iff []).mp fetched
    exact .inr ⟨rfl, _, by rw [← kept]; rfl, .inl ⟨_, rfl, past⟩⟩

/-- A failure is remembered when the root had no entry and nothing was found of it; else its entry
is left without a referral. -/
theorem of_failed (resolves : Resolves settings now domain root before asked outcome after)
    (failed : RootFailed settings now domain root asked) :
    outcome = .ok none ∧
      ((standing now before = none ∧ AsksRoot settings now domain root asked (.ok none) ∧
          after = some .negative) ∨
        ∃ expiration, after = some (.found ⟨expiration, none⟩) ∧
          ((∃ value, standing now before = some (.found ⟨expiration, value⟩)) ∨
            ∃ first rest referral, asked = first ++ rest ∧
              AsksRoot settings now domain root first (.ok (some referral)))) := by
  have unasked : ¬RootFailed settings now domain root [] := fun ⟨_, last, _⟩ => nomatch last
  have course := resolves.course
  generalize standing now before = left at course ⊢
  cases course with
  | refused asks | late asks | entered asks => cases (asks.failed_iff []).mp failed
  | missing asks => exact ⟨rfl, .inl ⟨rfl, asks, rfl⟩⟩
  | lapsed asks _ _ again kept =>
    obtain rfl := (again.failed_iff _).mp failed
    exact ⟨rfl, .inr ⟨_, by rw [← kept]; rfl, .inr ⟨_, _, _, rfl, asks⟩⟩⟩
  | known | served => exact absurd failed unasked
  | renewed _ asks kept =>
    obtain rfl := (asks.failed_iff []).mp failed
    exact ⟨rfl, .inr ⟨_, by rw [← kept]; rfl, .inl ⟨_, rfl⟩⟩⟩

end Resolves

theorem root?_insert (tier : Cached (KeyMap Roots)) (domainKey other rootKey : String)
    (roots : Roots) :
    root? { tier with value := tier.value.insert domainKey roots } other rootKey =
      if domainKey = other then roots.find? rootKey else root? tier other rootKey := by
  simp only [root?, KeyMap.find?_insert]
  split <;> rfl

/-- A resolver has an entry of a root in a list of domains that lives up to a time. -/
def Holds (r : Resolver) (domainKey rootKey : String) (ends : Moment) (entry : RootEntry) : Prop :=
  ∃ tier, r.cache.domains = some tier ∧ tier.expiration = ends ∧
    root? tier domainKey rootKey = some entry

/-- With a live list of domains, a look at what they know of a root asks for the root only. -/
theorem Trusts.of_live {c c' : Cache} {outcome : Except Error (Option Referral)}
    {tier : Cached (KeyMap Roots)}
    (trusts : Trusts settings now user domain root c asked outcome c')
    (there : c.domains = some tier) (live : now < tier.expiration) :
    (tier.value.find? (Text.toLower domain) = none ∧ asked = [] ∧ outcome = .ok none ∧
        c'.domains = some tier) ∨
      ∃ roots after, tier.value.find? (Text.toLower domain) = some roots ∧
        Resolves settings now domain root (roots.find? (Text.toLower root)) asked outcome
          (after.find? (Text.toLower root)) ∧
        (∀ other, other ≠ Text.toLower root → after.find? other = roots.find? other) ∧
        c'.domains =
          some { tier with value := tier.value.insert (Text.toLower domain) after } := by
  cases trusts with
  | failed lists =>
    rw [there] at lists
    cases (lists.of_live live).2.1
  | unknown lists =>
    rw [there] at lists
    cases (lists.of_live live).2.1
  | unlisted lists unlisted =>
    rw [there] at lists
    obtain ⟨rfl, -, ⟨⟩⟩ := lists.of_live live
    exact .inl ⟨unlisted, rfl, rfl, rfl⟩
  | listed lists listed resolves others =>
    rw [there] at lists
    obtain ⟨rfl, -, ⟨⟩⟩ := lists.of_live live
    exact .inr ⟨_, _, listed, resolves, others, rfl⟩

/-- A root is asked for in a list of domains that is there, or that has no roots yet. -/
theorem Trusts.exists_resolves {c c' : Cache} {outcome : Except Error (Option Referral)}
    (trusts : Trusts settings now user domain root c asked outcome c') {q : Inquiry}
    (last : asked.getLast? = some q)
    (named : q.path = "\\" ++ domain ∨ q.path = joined domain root) :
    ∃ first rest before after tier, asked = first ++ rest ∧ (∀ q ∈ first, q.path = "") ∧
      Resolves settings now domain root before rest outcome after ∧
      c'.domains = some tier ∧ root? tier (Text.toLower domain) (Text.toLower root) = after ∧
      ((∃ was, c.domains = some was ∧ now < was.expiration ∧ tier.expiration = was.expiration ∧
          root? was (Text.toLower domain) (Text.toLower root) = before) ∨
        (∀ was, c.domains = some was → was.expiration ≤ now) ∧
          now.later (settings.ttl * Lookup.domainTtlFactor) = .ok tier.expiration ∧
          before = none) := by
  have among := List.mem_of_getLast? last
  cases trusts with
  | failed lists => exact absurd (lists.path_of_mem among) (path_ne_empty domain root named)
  | unknown lists => exact absurd (lists.path_of_mem among) (path_ne_empty domain root named)
  | unlisted lists => exact absurd (lists.path_of_mem among) (path_ne_empty domain root named)
  | @listed first rest tier roots after outcome lists listed resolves others =>
    refine ⟨first, rest, _, _, _, rfl, fun _ => lists.path_of_mem, resolves, rfl, ?_, ?_⟩
    · rw [root?_insert, if_pos rfl]
    · have entered : root? tier (Text.toLower domain) (Text.toLower root) =
          roots.find? (Text.toLower root) := by rw [root?, listed, Option.bind_some]
      obtain ⟨was, live, -⟩ | ⟨stale, clock, blank⟩ := lists.live_or_blank
      · exact .inl ⟨tier, was, live, rfl, entered⟩
      · exact .inr ⟨stale, clock, entered.symm.trans (blank _ _)⟩

variable {r : Resolver} {e : Event σ} {ends : Moment} {entry : RootEntry}

theorem Operation.exists_of_requests {operation : Operation}
    (requests : operation.requests domainKey rootKey = true) :
    ∃ domain root path, operation = .resolve domain root path ∧
      Text.toLower domain = domainKey ∧ Text.toLower root = rootKey := by
  cases operation with
  | resolve domain root path =>
    simp only [Operation.requests, Bool.and_eq_true, decide_eq_true_eq] at requests
    exact ⟨domain, root, path, rfl, requests⟩
  | _ => cases requests

/-- An entry does not change when another root is resolved, or none. -/
theorem Holds.perform_other (holds : Holds r domainKey rootKey ends entry) (live : e.now < ends)
    (stays : e.operation ≠ .invalidateDomains)
    (other : e.operation.requests domainKey rootKey = false) :
    Holds (r.perform e).resolver domainKey rootKey ends entry := by
  obtain ⟨tier, there, rfl, entered⟩ := holds
  cases perform_effect r e with
  | unchanged same =>
    rw [same]
    exact ⟨tier, there, rfl, entered⟩
  | @resolved domain root path _ _ operation resolved =>
    obtain ⟨-, -, -, same⟩ | ⟨roots, after, listed, -, others, same⟩ :=
      resolved.trusts.of_live there live
    · exact ⟨tier, resolved.domains.trans same, rfl, entered⟩
    · refine ⟨_, resolved.domains.trans same, rfl, ?_⟩
      rw [root?_insert]
      split
      next equal =>
        subst equal
        rw [root?, listed] at entered
        rw [operation] at other
        have differs : rootKey ≠ Text.toLower root := by
          rintro rfl
          simp [Operation.requests] at other
        rw [others rootKey differs]
        exact entered
      next => exact entered
  | judged _ judged =>
    have lists := judged.lists
    rw [there] at lists
    obtain ⟨-, -, rfl⟩ := lists.of_live live
    exact ⟨tier, by rw [judged.cache], rfl, entered⟩
  | inserted _ _ same => exact ⟨tier, same.trans there, rfl, entered⟩
  | invalidated operation => exact absurd operation stays

/-- A live entry's root is resolved from it. -/
theorem Holds.exists_resolves {path : Option String}
    (holds : Holds r domainKey rootKey ends entry) (live : e.now < ends)
    (resolving : r.resolves root = true) (asks : e.operation = .resolve domain root path)
    (names : Text.toLower domain = domainKey ∧ Text.toLower root = rootKey) :
    ∃ outcome c after, Resolved r e domain root path (r.perform e) outcome c ∧
      Resolves r.settings e.now domain root (some entry) (r.perform e).asked outcome after ∧
      ∀ entry', after = some entry' →
        Holds (r.perform e).resolver domainKey rootKey ends entry' := by
  obtain ⟨tier, there, rfl, entered⟩ := holds
  obtain ⟨rfl, rfl⟩ := names
  obtain ⟨outcome, c, resolved⟩ := exists_resolved resolving asks
  obtain ⟨unlisted, -⟩ | ⟨roots, after, listed, resolves, -, same⟩ :=
    resolved.trusts.of_live there live
  · rw [root?, unlisted] at entered
    cases entered
  · rw [root?, listed] at entered
    rw [Option.bind_some] at entered
    rw [entered] at resolves
    refine ⟨outcome, c, _, resolved, resolves, fun entry' left =>
      ⟨_, resolved.domains.trans same, rfl, ?_⟩⟩
    rw [root?_insert, if_pos rfl]
    exact left

/-- An entry that answers by itself does so, without the network. -/
theorem Holds.perform_settled {path : Option String}
    (holds : Holds r domainKey rootKey ends entry) (live : e.now < ends)
    (settled : entry.Settled e.now) (asks : e.operation = .resolve domain root path)
    (names : Text.toLower domain = domainKey ∧ Text.toLower root = rootKey) :
    (r.perform e).asked = [] ∧ Holds (r.perform e).resolver domainKey rootKey ends entry ∧
      (r.resolves root = true →
        ∃ c, Resolved r e domain root path (r.perform e) (.ok entry.referral?) c) := by
  cases resolving : r.resolves root with
  | false =>
    obtain ⟨unasked, same, -⟩ := perform_of_not_resolves resolving asks
    rw [same]
    exact ⟨unasked, holds, nofun⟩
  | true =>
    obtain ⟨outcome, c, after, resolved, resolves, kept⟩ :=
      holds.exists_resolves live resolving asks names
    obtain ⟨_, ⟨⟩, -, unasked, rfl, rfl⟩ | ⟨unsettled, -⟩ := resolves.settled_or_asks
    · exact ⟨unasked, kept entry rfl, fun _ => ⟨c, resolved⟩⟩
    · exact absurd settled (unsettled entry rfl)

theorem Holds.perform (holds : Holds r domainKey rootKey ends entry) (live : e.now < ends)
    (stays : e.operation ≠ .invalidateDomains)
    (settled : e.operation.requests domainKey rootKey = true → entry.Settled e.now) :
    Holds (r.perform e).resolver domainKey rootKey ends entry := by
  cases requested : e.operation.requests domainKey rootKey with
  | false => exact holds.perform_other live stays requested
  | true =>
    obtain ⟨domain, root, path, asks, names⟩ := Operation.exists_of_requests requested
    exact (holds.perform_settled live (settled requested) asks names).2.1

/-- An entry lasts as long as it answers by itself whenever its root is resolved, whatever else is
done with the resolver. -/
theorem Holds.performAll (holds : Holds r domainKey rootKey ends entry) (events : List (Event σ))
    (early : ∀ e ∈ events, e.now < ends) (stays : ∀ e ∈ events, e.operation ≠ .invalidateDomains)
    (settled : ∀ e ∈ events, e.operation.requests domainKey rootKey = true →
      entry.Settled e.now) :
    Holds (r.performAll events).2 domainKey rootKey ends entry := by
  induction events generalizing r with
  | nil => exact holds
  | cons e events ih =>
    have first := holds.perform (early e (.head _)) (stays e (.head _)) (settled e (.head _))
    exact ih first (fun e among => early e (.tail _ among))
      (fun e among => stays e (.tail _ among)) (fun e among => settled e (.tail _ among))

/-- A list of names, as it is given for domains and for controllers. -/
def listing (names : List String) : ReferralResponse :=
  ⟨0, ⟨0⟩, [{ ReferralEntry.blank with
    version := 3, flags := ReferralEntryFlags.nameList, ttl := 600, expandedNames := names }]⟩

/-- A referral to a share of a file server for some seconds. -/
def leadingFor (ttl : UInt32) : ReferralResponse :=
  ⟨10, ⟨0⟩, [{ ReferralEntry.blank with version := 3, ttl, node := "\\fs1\\data" }]⟩

/-- A network with one domain, the controller of which says this of the root `data`. -/
def corp (root : Except Error ReferralResponse) : Network Unit where
  userDomain _ := some "corp"
  ask _ path _ _ :=
    (if path = "" then .ok (listing ["corp"])
    else if path = "\\corp" then .ok (listing ["dc1"])
    else if path = "\\corp\\data" then root
    else .error (.io .refused), ())

/-- A call for that root at a time at which the controller says this of it. -/
def asking (now : Moment) (root : Except Error ReferralResponse) : Event Unit :=
  ⟨now, corp root, (), .resolve "corp" "data" none⟩

end Smb1.Dfs
