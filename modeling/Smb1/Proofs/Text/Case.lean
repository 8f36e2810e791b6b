import Smb1.Text.Case

/-! Lower case and the path separator. The separator is the lower case of itself only, and the case
of a text does not depend on what stands on the other side of one. On most of the basic alphabet
lower case is what it is when only that alphabet is looked at. -/
namespace Smb1.Text

namespace Case

theorem eq_or_image_of_mapRuns {runs : List Run} {c d : Char} (mapped : mapRuns runs c = d)
    (positive : 0 < d.toNat) : c = d ∨ ∃ r ∈ runs, r.image? c.toNat = some d.toNat := by
  unfold mapRuns at mapped
  cases found : runs.findSome? (·.image? c.toNat) with
  | none =>
    rw [found] at mapped
    exact .inl mapped
  | some n =>
    rw [found] at mapped
    obtain ⟨r, among, image⟩ := List.exists_of_findSome?_eq_some found
    refine .inr ⟨r, among, image.trans (congrArg some ?_)⟩
    dsimp only at mapped
    rw [← mapped, Char.ofNat] at positive ⊢
    by_cases valid : n.isValidChar
    · rw [dif_pos valid]
      rfl
    · rw [dif_neg valid] at positive
      cases positive

theorem Run.image?_eq_some {r : Run} {n m : Nat} (image : r.image? n = some m) :
    r.first ≤ n ∧ n ≤ r.last ∧ m = (n + r.shift).toNat := by
  unfold image? at image
  split at image
  next within => exact ⟨within.1, within.2.1, (Option.some.inj image).symm⟩
  next => cases image

/-- Each run either starts in the basic alphabet or stays out of it; only the Kelvin sign, which
stands for itself, has its lower case there. -/
theorem lowerRuns_spec : ∀ r ∈ lowerRuns, r.last < 128 ∨ 128 ≤ r.first + r.shift ∨
    r.first = 0x212A ∧ r.last = 0x212A ∧ (0x212A + r.shift).toNat = 0x6B := by
  decide +kernel

theorem lowerRuns_tail : ∀ r ∈ lowerRuns.tail, 128 ≤ r.first := by decide +kernel

/-- Only the letters of the basic alphabet have a lower case of their own in it. -/
theorem toLower_cases (c : Char) :
    (0x41 ≤ c.toNat ∧ c.toNat ≤ 0x5A) ∧ c.toLower.toNat = c.toNat + 0x20 ∨
      ¬(0x41 ≤ c.toNat ∧ c.toNat ≤ 0x5A) ∧ c.toLower = c := by
  unfold Char.toLower
  split
  next upper =>
    have first : 0x41 ≤ c.toNat := UInt32.le_iff_toNat_le.mp upper.1
    have last : c.toNat ≤ 0x5A := UInt32.le_iff_toNat_le.mp upper.2
    refine .inl ⟨⟨first, last⟩, ?_⟩
    change (c.val + 32).toNat = c.toNat + 0x20
    rw [UInt32.toNat_add]
    exact Nat.mod_eq_of_lt (show c.toNat + 32 < 2 ^ 32 by omega)
  next other =>
    refine .inr ⟨fun upper => other ⟨?_, ?_⟩, rfl⟩
    · exact UInt32.le_iff_toNat_le.mpr upper.1
    · exact UInt32.le_iff_toNat_le.mpr upper.2

theorem toLower_of_le {c : Char} (beyond : 128 ≤ c.toNat) : c.toLower = c := by
  obtain ⟨upper, -⟩ | ⟨-, same⟩ := toLower_cases c
  · omega
  · exact same

theorem toLower_lt {c : Char} (small : c.toNat < 128) : c.toLower.toNat < 128 := by
  obtain ⟨upper, lower⟩ | ⟨-, same⟩ := toLower_cases c
  · omega
  · rwa [same]

theorem toLower_toLower (c : Char) : c.toLower.toLower = c.toLower := by
  obtain ⟨upper, lower⟩ | ⟨-, same⟩ := toLower_cases c
  · obtain ⟨upper', -⟩ | ⟨-, same⟩ := toLower_cases c.toLower
    · omega
    · exact same
  · rw [same, same]

/-- What is no letter of the basic alphabet is the lower case of itself only. -/
theorem toLower_eq_iff {c d : Char} (other : ¬(0x41 ≤ d.toNat ∧ d.toNat ≤ 0x5A))
    (other' : ¬(0x61 ≤ d.toNat ∧ d.toNat ≤ 0x7A)) : c.toLower = d ↔ c = d := by
  obtain ⟨upper, lower⟩ | ⟨-, same⟩ := toLower_cases c
  · refine iff_of_false ?_ ?_
    · rintro rfl
      omega
    · rintro rfl
      exact other upper
  · rw [same]

theorem image?_letters (c : Char) : (match Run.image? ⟨0x41, 0x5A, 1, 32⟩ c.toNat with
    | some m => Char.ofNat m
    | none => c) = c.toLower := by
  unfold Run.image?
  obtain ⟨upper, lower⟩ | ⟨other, same⟩ := toLower_cases c
  · rw [if_pos ⟨upper.1, upper.2, Nat.mod_one _⟩]
    change Char.ofNat (c.toNat + 0x20) = c.toLower
    rw [← lower, Char.ofNat_toNat]
  · rw [if_neg fun letter => other ⟨letter.1, letter.2.1⟩, same]

theorem lowerChar_of_lt {c : Char} (basic : c.toNat < 128) : lowerChar c = [c.toLower] := by
  have beyond : lowerRuns.tail.findSome? (·.image? c.toNat) = none := by
    refine List.findSome?_eq_none_iff.mpr fun r among => ?_
    have first := lowerRuns_tail r among
    exact if_neg (by omega)
  rw [lowerChar, if_neg (by omega), ← image?_letters, mapRuns,
    show lowerRuns = ⟨0x41, 0x5A, 1, 32⟩ :: lowerRuns.tail from rfl, List.findSome?_cons, beyond]
  cases Run.image? ⟨0x41, 0x5A, 1, 32⟩ c.toNat <;> rfl

/-- A character of the basic alphabet that is the lower case of no other than its own letters. -/
def Plain (d : Char) : Prop := 0 < d.toNat ∧ d.toNat < 128 ∧ d.toNat ≠ 0x6B

instance (d : Char) : Decidable (Plain d) := inferInstanceAs (Decidable (_ ∧ _ ∧ _))

theorem lt_of_plain_toLower {c : Char} (plain : Plain c.toLower) : c.toNat < 128 := by
  obtain ⟨upper, -⟩ | ⟨-, same⟩ := toLower_cases c
  · omega
  · rw [same] at plain
    exact plain.2.1

/-- A character becomes a plain one exactly when it does so in the basic alphabet. -/
theorem lowerChar_eq_singleton_iff {c d : Char} (plain : Plain d) :
    lowerChar c = [d] ↔ c.toLower = d := by
  constructor
  · intro lower
    have basic : c.toNat < 128 := by
      unfold lowerChar at lower
      split at lower
      · cases lower
      · obtain rfl | ⟨r, among, image⟩ :=
          eq_or_image_of_mapRuns (List.singleton_inj.mp lower) plain.1
        · exact plain.2.1
        · obtain ⟨first, last, shown⟩ := Run.image?_eq_some image
          have := plain.2
          obtain inside | outside | ⟨starts, ends, kelvin⟩ := lowerRuns_spec r among
          · omega
          · omega
          · have same : c.toNat = 0x212A := by omega
            rw [same] at shown
            omega
    rw [lowerChar_of_lt basic] at lower
    exact List.singleton_inj.mp lower
  · rintro rfl
    exact lowerChar_of_lt (lt_of_plain_toLower plain)

theorem lowerFrom_cons {c : Char} (before rest : List Char) (other : c ≠ capitalSigma) :
    lowerFrom before (c :: rest) = lowerChar c ++ lowerFrom (c :: before) rest := by
  rw [lowerFrom, if_neg other]

theorem lowerFrom_capitalSigma (before rest : List Char) :
    lowerFrom before (capitalSigma :: rest) =
      (if meetsCased before && !meetsCased rest then finalSigma else smallSigma) ::
        lowerFrom (capitalSigma :: before) rest := by
  rw [lowerFrom, if_pos rfl]
  split <;> rfl

/-- The lower case of a text is plain exactly when it is so in the basic alphabet. -/
theorem lowerFrom_eq_iff (before chars : List Char) {lower : List Char}
    (plain : ∀ d ∈ lower, Plain d) :
    lowerFrom before chars = lower ↔ chars.map Char.toLower = lower := by
  induction chars generalizing before lower with
  | nil => rfl
  | cons c chars ih =>
    rw [List.map_cons]
    cases lower with
    | nil =>
      refine iff_of_false ?_ nofun
      by_cases sigma : c = capitalSigma
      · rw [sigma, lowerFrom_capitalSigma]
        nofun
      · rw [lowerFrom_cons before chars sigma, lowerChar]
        split <;> nofun
    | cons d lower =>
      obtain ⟨first, rest⟩ := List.forall_mem_cons.mp plain
      by_cases sigma : c = capitalSigma
      · rw [sigma, lowerFrom_capitalSigma]
        refine iff_of_false (fun same => ?_) (fun same => ?_)
        · rw [← (List.cons.inj same).1] at first
          split at first <;> exact absurd first (by decide)
        · rw [← (List.cons.inj same).1] at first
          exact absurd first (by decide)
      · rw [lowerFrom_cons before chars sigma]
        by_cases dotted : c.toNat = 0x130
        · rw [lowerChar, if_pos dotted]
          refine iff_of_false (fun same => ?_) (fun same => ?_)
          · have mark := rest (Char.ofNat 0x307) (by rw [← (List.cons.inj same).2]; exact .head _)
            exact absurd mark (by decide)
          · rw [← (List.cons.inj same).1] at first
            have basic := lt_of_plain_toLower first
            omega
        · have single : lowerChar c = [mapRuns lowerRuns c] := by rw [lowerChar, if_neg dotted]
          rw [single, List.singleton_append, List.cons_eq_cons, List.cons_eq_cons,
            ih (c :: before) rest, ← lowerChar_eq_singleton_iff first, single,
            List.singleton_inj]

/-- In the basic alphabet only the ranges that start there count. -/
theorem inRanges_of_lt {ranges near : List (Nat × Nat)} {c : Char}
    (starting : ranges.filter (·.1 < 128) = near) (small : c.toNat < 128) :
    inRanges ranges c = inRanges near c := by
  rw [← starting, inRanges, inRanges, List.any_filter]
  congr 1
  funext r
  rw [Bool.eq_iff_iff]
  simp only [Bool.and_eq_true, decide_eq_true_eq]
  omega

theorem filter_casedRanges : casedRanges.filter (·.1 < 128) = [(0x41, 0x5A), (0x61, 0x7A)] := rfl

theorem filter_ignorableRanges : ignorableRanges.filter (·.1 < 128) =
    [(0x27, 0x27), (0x2E, 0x2E), (0x3A, 0x3A), (0x5E, 0x5E), (0x60, 0x60)] := by
  decide +kernel

theorem meetsCased_append_separator (chars rest : List Char) :
    meetsCased (chars ++ '\\' :: rest) = meetsCased chars := by
  have stops : isIgnorable '\\' = false := inRanges_of_lt filter_ignorableRanges (by decide)
  have caseless : isCased '\\' = false := inRanges_of_lt filter_casedRanges (by decide)
  induction chars with
  | nil => simp [meetsCased, stops, caseless]
  | cons c chars ih =>
    unfold meetsCased at ih ⊢
    rw [List.cons_append, List.dropWhile_cons, List.dropWhile_cons]
    by_cases ignorable : isIgnorable c
    · rw [if_pos ignorable, if_pos ignorable]
      exact ih
    · rw [if_neg ignorable, if_neg ignorable]

theorem lowerFrom_append_separator (before far chars : List Char) :
    lowerFrom (before ++ '\\' :: far) chars = lowerFrom before chars := by
  induction chars generalizing before with
  | nil => rfl
  | cons c chars ih =>
    have later := ih (c :: before)
    rw [List.cons_append] at later
    rw [lowerFrom, lowerFrom, meetsCased_append_separator, later]

/-- A text is brought into lower case part by part. -/
theorem lowerFrom_separator (before chars rest : List Char) :
    lowerFrom before (chars ++ '\\' :: rest) =
      lowerFrom before chars ++ '\\' :: lowerFrom [] rest := by
  induction chars generalizing before with
  | nil =>
    have alone := lowerFrom_append_separator [] before rest
    rw [List.nil_append] at alone
    rw [List.nil_append, lowerFrom_cons before rest (by decide),
      lowerChar_of_lt (by decide), alone]
    rfl
  | cons c chars ih =>
    rw [List.cons_append, lowerFrom, lowerFrom, meetsCased_append_separator, ih,
      List.append_assoc]

theorem toLower_eq_separator (c : Char) : c.toLower = '\\' ↔ c = '\\' :=
  toLower_eq_iff (by decide) (by decide)

theorem toLower_eq_capitalSigma (c : Char) : c.toLower = capitalSigma ↔ c = capitalSigma :=
  toLower_eq_iff (by decide) (by decide)

theorem not_mem_lowerChar {c : Char} (other : c ≠ '\\') : '\\' ∉ lowerChar c := by
  intro among
  have single : lowerChar c = ['\\'] := by
    unfold lowerChar at among ⊢
    split at among
    · exact absurd among (by decide)
    · rw [if_neg ‹_›, ← List.mem_singleton.mp among]
  have lower := (lowerChar_eq_singleton_iff (by decide)).mp single
  exact other ((toLower_eq_separator c).mp lower)

theorem not_mem_lowerFrom (before : List Char) {chars : List Char} (whole : '\\' ∉ chars) :
    '\\' ∉ lowerFrom before chars := by
  induction chars generalizing before with
  | nil => exact whole
  | cons c chars ih =>
    have other : c ≠ '\\' := fun same => whole (same ▸ .head _)
    have rest := ih (c :: before) fun among => whole (.tail _ among)
    by_cases sigma : c = capitalSigma
    · rw [sigma, lowerFrom_capitalSigma, ← sigma, List.mem_cons, not_or]
      exact ⟨by split <;> decide, rest⟩
    · rw [lowerFrom_cons before chars sigma, List.mem_append, not_or]
      exact ⟨not_mem_lowerChar other, rest⟩

theorem lowerFrom_eq_nil_iff {before chars : List Char} :
    lowerFrom before chars = [] ↔ chars = [] := by
  rw [lowerFrom_eq_iff before chars (List.forall_mem_nil _), List.map_eq_nil_iff]

theorem lowerChar_toLower (c : Char) : lowerChar c.toLower = lowerChar c := by
  rcases Nat.lt_or_ge c.toNat 128 with small | beyond
  · rw [lowerChar_of_lt (toLower_lt small), lowerChar_of_lt small, toLower_toLower]
  · rw [toLower_of_le beyond]

/-- Ranges that hold both cases of a basic letter or neither do not tell cases apart. -/
theorem inRanges_toLower {ranges near : List (Nat × Nat)}
    (starting : ranges.filter (·.1 < 128) = near)
    (letters : ∀ n ≤ 0x5A, 0x41 ≤ n → ((near.any fun r => r.1 ≤ n + 0x20 && n + 0x20 ≤ r.2) =
      near.any fun r => r.1 ≤ n && n ≤ r.2)) (c : Char) :
    inRanges ranges c.toLower = inRanges ranges c := by
  obtain ⟨upper, lower⟩ | ⟨-, same⟩ := toLower_cases c
  · have small : c.toNat < 128 := by omega
    rw [inRanges_of_lt starting (toLower_lt small), inRanges_of_lt starting small, inRanges,
      inRanges, lower]
    exact letters c.toNat upper.2 upper.1
  · rw [same]

theorem isCased_toLower (c : Char) : isCased c.toLower = isCased c :=
  inRanges_toLower filter_casedRanges (by decide) c

theorem isIgnorable_toLower (c : Char) : isIgnorable c.toLower = isIgnorable c :=
  inRanges_toLower filter_ignorableRanges (by decide) c

theorem meetsCased_map_toLower (chars : List Char) :
    meetsCased (chars.map Char.toLower) = meetsCased chars := by
  have looked : isIgnorable ∘ Char.toLower = isIgnorable := funext isIgnorable_toLower
  rw [meetsCased, List.dropWhile_map, looked, meetsCased]
  cases chars.dropWhile isIgnorable with
  | nil => rfl
  | cons c rest => exact isCased_toLower c

/-- The lower case of a text does not depend on the case of its basic letters. -/
theorem lowerFrom_map_toLower (before chars : List Char) :
    lowerFrom (before.map Char.toLower) (chars.map Char.toLower) = lowerFrom before chars := by
  induction chars generalizing before with
  | nil => rfl
  | cons c chars ih =>
    have rest := ih (c :: before)
    rw [List.map_cons] at rest
    simp only [List.map_cons, lowerFrom, toLower_eq_capitalSigma, lowerChar_toLower,
      meetsCased_map_toLower, rest]

end Case

theorem toLower_eq_of_eqIgnoringAsciiCase {a b : String} (same : eqIgnoringAsciiCase a b = true) :
    toLower a = toLower b := by
  have letters : a.toList.map Char.toLower = b.toList.map Char.toLower := eq_of_beq same
  have lower := Case.lowerFrom_map_toLower [] a.toList
  rw [letters, Case.lowerFrom_map_toLower [] b.toList] at lower
  rw [toLower, toLower, lower]

/-- Among the texts with a plain lower case, the cases that a full table and the basic alphabet make
equal are the same. -/
theorem eqIgnoringAsciiCase_iff {a b : String}
    (plain : ∀ c ∈ b.toList, Case.Plain c.toLower) :
    eqIgnoringAsciiCase a b = true ↔ toLower a = toLower b := by
  have plain' : ∀ d ∈ b.toList.map Char.toLower, Case.Plain d := by
    intro d among
    obtain ⟨c, there, rfl⟩ := List.mem_map.mp among
    exact plain c there
  rw [eqIgnoringAsciiCase, beq_iff_eq, toLower, toLower, String.ofList_inj,
    (Case.lowerFrom_eq_iff [] b.toList plain').mpr rfl, Case.lowerFrom_eq_iff [] a.toList plain']

end Smb1.Text
