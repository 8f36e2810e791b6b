import Mathlib.Data.Finset.Card
import Mathlib.Data.Finset.Range
import Mathlib.Data.List.Dedup
import Smb1.Proofs.Wire.Reads
import Smb1.Transaction.Reassembly

/-! A stream of fragments that never overlap. Its counter is then the number of positions that
have arrived, and what has arrived at a position stays there. -/
namespace Smb1.Transaction

/-- The positions that `count` bytes from `start` on take. -/
def span (start count : Nat) : List Nat := List.range' start count

theorem mem_span {start count position : Nat} :
    position ∈ span start count ↔ start ≤ position ∧ position < start + count :=
  List.mem_range'_1

namespace Stream

/-- What every fragment that is taken in keeps up. -/
structure Sound (s : Stream) : Prop where
  inside : ∀ f ∈ s.fragments, f.1 + f.2.length ≤ s.total
  apart : s.fragments.Pairwise fun f g =>
    f.1 + f.2.length ≤ g.1 ∨ g.1 + g.2.length ≤ f.1

def positions (s : Stream) : List Nat := s.fragments.flatMap fun f => span f.1 f.2.length

theorem sound_ofTotal (total : Nat) : (ofTotal total).Sound := ⟨nofun, .nil⟩

theorem sound_whole (bytes : Bytes) : (whole bytes).Sound where
  inside f member := by
    obtain rfl := List.mem_singleton.mp member
    exact Nat.le_of_eq (Nat.zero_add _)
  apart := List.pairwise_singleton ..

theorem overlaps_eq_false {s : Stream} {start stop : Nat} :
    s.overlaps start stop = false ↔
      ∀ g ∈ s.fragments, stop ≤ g.1 ∨ g.1 + g.2.length ≤ start := by
  rw [overlaps, List.any_eq_false]
  refine forall₂_congr fun g _ => ?_
  simp only [Bool.and_eq_true, decide_eq_true_eq]
  omega

theorem accept_eq_ok {s s' : Stream} {part : Section} {displacement : Nat} {fragment : Bytes}
    (h : s.accept part displacement fragment = .ok s') :
    displacement + fragment.length ≤ s.total ∧
      (fragment = [] ∧ s' = s ∨
        fragment ≠ [] ∧ s' = { s with fragments := (displacement, fragment) :: s.fragments } ∧
          ∀ g ∈ s.fragments, displacement + fragment.length ≤ g.1 ∨
            g.1 + g.2.length ≤ displacement) := by
  unfold accept at h
  obtain ⟨_, sum, h⟩ := Wire.ok_of_bind h
  obtain ⟨rfl, -⟩ := Wire.Position.add_eq_ok_iff.mp sum
  split at h
  · cases h
  next inside =>
    refine ⟨Nat.not_lt.mp inside, ?_⟩
    split at h
    next empty =>
      cases h
      exact .inl ⟨List.isEmpty_iff.mp empty, rfl⟩
    next some =>
      split at h
      · cases h
      next apart =>
        obtain ⟨_, -, h⟩ := Wire.ok_of_bind h
        obtain ⟨_, -, h⟩ := Wire.ok_of_bind h
        cases h
        exact .inr ⟨mt List.isEmpty_iff.mpr some, rfl,
          overlaps_eq_false.mp (Bool.not_eq_true _ ▸ apart)⟩

theorem Sound.cons {s : Stream} (sound : s.Sound) {displacement : Nat} {fragment : Bytes}
    (inside : displacement + fragment.length ≤ s.total)
    (apart : ∀ g ∈ s.fragments, displacement + fragment.length ≤ g.1 ∨
      g.1 + g.2.length ≤ displacement) :
    ({ s with fragments := (displacement, fragment) :: s.fragments } : Stream).Sound where
  inside f member := by
    rcases List.mem_cons.mp member with rfl | earlier
    · exact inside
    · exact sound.inside f earlier
  apart := .cons apart sound.apart

theorem sound_accept {s s' : Stream} {part : Section} {displacement : Nat} {fragment : Bytes}
    (sound : s.Sound) (h : s.accept part displacement fragment = .ok s') : s'.Sound := by
  obtain ⟨inside, ⟨-, rfl⟩ | ⟨-, rfl, apart⟩⟩ := accept_eq_ok h
  · exact sound
  · exact sound.cons inside apart

theorem covered_eq_length (s : Stream) :
    s.covered = (s.fragments.flatMap (·.2)).length := by
  unfold covered
  induction s.fragments with
  | nil => rfl
  | cons f rest ih => rw [List.foldr_cons, List.flatMap_cons, List.length_append, ih]

theorem length_positions (s : Stream) : s.positions.length = s.covered := by
  simp only [positions, covered_eq_length, span, List.length_flatMap, List.length_range']

theorem nodup_positions {s : Stream} (sound : s.Sound) : s.positions.Nodup := by
  refine List.nodup_flatMap.mpr ⟨fun f _ => List.nodup_range', ?_⟩
  refine sound.apart.imp fun {f g} apart => ?_
  intro position inF inG
  have := mem_span.mp inF
  have := mem_span.mp inG
  omega

theorem lt_total_of_mem {s : Stream} (sound : s.Sound) {position : Nat}
    (member : position ∈ s.positions) : position < s.total := by
  obtain ⟨f, inS, inF⟩ := List.mem_flatMap.mp member
  have := mem_span.mp inF
  have := sound.inside f inS
  omega

/-- The counter says how many different positions have arrived. -/
theorem covered_eq_card {s : Stream} (sound : s.Sound) : s.covered = s.positions.toFinset.card := by
  rw [List.toFinset_card_of_nodup (nodup_positions sound), length_positions]

theorem positions_subset {s : Stream} (sound : s.Sound) :
    s.positions.toFinset ⊆ Finset.range s.total := fun _ member =>
  Finset.mem_range.mpr (lt_total_of_mem sound (List.mem_toFinset.mp member))

theorem covered_le {s : Stream} (sound : s.Sound) : s.covered ≤ s.total := by
  rw [covered_eq_card sound, ← Finset.card_range s.total]
  exact Finset.card_le_card (positions_subset sound)

/-- A fragment within the total that meets no other is taken in. -/
theorem accept_of_apart {s : Stream} (sound : s.Sound) (small : s.total < Wire.Position.limit)
    {displacement : Nat} {fragment : Bytes} (part : Section)
    (inside : displacement + fragment.length ≤ s.total)
    (apart : ∀ g ∈ s.fragments, displacement + fragment.length ≤ g.1 ∨
      g.1 + g.2.length ≤ displacement) : ∃ s', s.accept part displacement fragment = .ok s' := by
  have room : fragment.length + s.covered ≤ s.total := covered_le (sound.cons inside apart)
  have stop : Wire.Position.add displacement fragment.length =
      .ok (displacement + fragment.length) := Wire.Position.add_eq_ok_iff.mpr ⟨rfl, by omega⟩
  have sum : Wire.Position.add s.covered fragment.length = .ok (s.covered + fragment.length) :=
    Wire.Position.add_eq_ok_iff.mpr ⟨rfl, by omega⟩
  unfold accept
  simp only [stop, bind, Except.bind, if_neg (Nat.not_lt.mpr inside), overlaps_eq_false.mpr apart,
    Bool.false_eq_true, if_false, Wire.Buffer.checkCopy_eq_ok inside rfl, sum]
  split <;> exact ⟨_, rfl⟩

theorem isComplete_iff {s : Stream} (sound : s.Sound) :
    s.isComplete = true ↔ ∀ position < s.total, position ∈ s.positions := by
  have inside := positions_subset sound
  have card := covered_eq_card sound
  rw [isComplete, beq_iff_eq]
  constructor
  · intro complete position lt
    have all := Finset.eq_of_subset_of_card_le inside (by rw [Finset.card_range]; omega)
    exact List.mem_toFinset.mp (all ▸ Finset.mem_range.mpr lt)
  · intro all
    have same : s.positions.toFinset = Finset.range s.total :=
      Finset.Subset.antisymm inside fun position member =>
        List.mem_toFinset.mpr (all position (Finset.mem_range.mp member))
    rw [card, same, Finset.card_range]

theorem length_overwrite {bytes fragment : Bytes} {displacement : Nat}
    (inside : displacement + fragment.length ≤ bytes.length) :
    (overwrite bytes (displacement, fragment)).length = bytes.length := by
  simp only [overwrite, List.length_append, List.length_take, List.length_drop]
  omega

theorem getElem?_overwrite {bytes fragment : Bytes} {displacement : Nat}
    (inside : displacement + fragment.length ≤ bytes.length) (position : Nat) :
    (overwrite bytes (displacement, fragment))[position]? =
      if displacement ≤ position ∧ position < displacement + fragment.length then
        fragment[position - displacement]?
      else bytes[position]? := by
  have taken : (bytes.take displacement).length = displacement := by
    rw [List.length_take]
    omega
  simp only [overwrite, List.append_assoc, List.getElem?_append, taken]
  split
  next before =>
    rw [if_neg (by omega), List.getElem?_take_of_lt before]
  next behind =>
    split
    next within => rw [if_pos (by omega)]
    next beyond =>
      rw [if_neg (by omega), List.getElem?_drop]
      congr 1
      omega

theorem length_bytes {s : Stream} (sound : s.Sound) : s.bytes.length = s.total := by
  obtain ⟨total, fragments⟩ := s
  induction fragments with
  | nil => exact List.length_replicate
  | cons f rest ih =>
    have inner : (⟨total, rest⟩ : Stream).Sound :=
      ⟨fun g member => sound.inside g (List.mem_cons_of_mem _ member),
        (List.pairwise_cons.mp sound.apart).2⟩
    have length := ih inner
    have inside := sound.inside f List.mem_cons_self
    exact (length_overwrite (length.symm ▸ inside)).trans length

/-- A byte that has arrived is the byte that its fragment brought. -/
theorem getElem?_bytes {s : Stream} (sound : s.Sound) :
    ∀ f ∈ s.fragments, ∀ i < f.2.length, s.bytes[f.1 + i]? = f.2[i]? := by
  obtain ⟨total, fragments⟩ := s
  induction fragments with
  | nil => nofun
  | cons g rest ih =>
    have inner : (⟨total, rest⟩ : Stream).Sound :=
      ⟨fun g member => sound.inside g (List.mem_cons_of_mem _ member),
        (List.pairwise_cons.mp sound.apart).2⟩
    have length := length_bytes inner
    have inside : g.1 + g.2.length ≤ (⟨total, rest⟩ : Stream).bytes.length := by
      rw [length]
      exact sound.inside g List.mem_cons_self
    intro f member i lt
    show (overwrite (⟨total, rest⟩ : Stream).bytes (g.1, g.2))[f.1 + i]? = _
    rw [getElem?_overwrite inside]
    rcases List.mem_cons.mp member with rfl | earlier
    · rw [if_pos (by omega), Nat.add_sub_cancel_left]
    · have apart := (List.pairwise_cons.mp sound.apart).1 f earlier
      rw [if_neg (by omega)]
      exact ih inner f earlier i lt

end Stream

end Smb1.Transaction
