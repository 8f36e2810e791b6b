import Smb1.Proofs.Transaction.Layout

/-! Cutting a payload. Each frame takes a piece of what is left, and the pieces that the frames take
follow each other without a gap. -/
namespace Smb1.Transaction

/-- How much of a payload a frame with this layout carries. -/
def Layout.count (l : Layout) : Section → Nat
  | .parameter => l.parameterCount
  | .data => l.dataCount

/-- Pieces of a payload that follow each other from a position on to its end. -/
inductive Tiles (payload : Bytes) : Nat → List (Nat × Bytes) → Prop
  | done : Tiles payload payload.length []
  | piece {sent count : Nat} {rest : List (Nat × Bytes)} (inside : sent + count ≤ payload.length)
      (tiles : Tiles payload (sent + count) rest) :
      Tiles payload sent ((sent, (payload.drop sent).take count) :: rest)

namespace Tiles

variable {payload : Bytes} {sent : Nat} {pieces : List (Nat × Bytes)}

/-- The pieces in a row are what there is from the position on. -/
theorem flatMap_eq (tiles : Tiles payload sent pieces) :
    pieces.flatMap (·.2) = payload.drop sent := by
  induction tiles with
  | done => exact List.drop_length.symm
  | @piece sent count rest inside tiles ih =>
    rw [List.flatMap_cons, ih, ← List.drop_drop, List.take_append_drop]

/-- A piece stands where those before it end. -/
theorem fst_eq (tiles : Tiles payload sent pieces) {earlier later : List (Nat × Bytes)}
    {piece : Nat × Bytes} (split : pieces = earlier ++ piece :: later) :
    piece.1 = sent + (earlier.flatMap (·.2)).length := by
  induction tiles generalizing earlier with
  | done => simp at split
  | @piece sent count rest inside tiles ih =>
    cases earlier with
    | nil =>
      obtain ⟨rfl, -⟩ := List.cons.inj split
      rfl
    | cons first others =>
      obtain ⟨rfl, tail⟩ := List.cons.inj split
      have taken : ((payload.drop sent).take count).length = count := by
        rw [List.length_take, List.length_drop]
        omega
      rw [ih tail, List.flatMap_cons, List.length_append, taken, Nat.add_assoc]

/-- A piece is what the payload has where it stands. -/
theorem slice (tiles : Tiles payload sent pieces) : ∀ piece ∈ pieces,
    sent ≤ piece.1 ∧ piece.1 + piece.2.length ≤ payload.length ∧
      ∀ i < piece.2.length, piece.2[i]? = payload[piece.1 + i]? := by
  induction tiles with
  | done => nofun
  | @piece sent count rest inside tiles ih =>
    intro piece member
    rcases List.mem_cons.mp member with rfl | later
    · have taken : ((payload.drop sent).take count).length = count := by
        rw [List.length_take, List.length_drop]
        omega
      refine ⟨Nat.le_refl _, by rw [taken]; exact inside, fun i lt => ?_⟩
      rw [List.getElem?_take_of_lt (taken ▸ lt), List.getElem?_drop]
    · obtain ⟨behind, within, same⟩ := ih piece later
      exact ⟨Nat.le_trans (Nat.le_add_right _ _) behind, within, same⟩

theorem pairwise (tiles : Tiles payload sent pieces) :
    pieces.Pairwise fun f g => f.1 + f.2.length ≤ g.1 := by
  induction tiles with
  | done => exact .nil
  | @piece sent count rest inside tiles ih =>
    refine .cons (fun g later => ?_) ih
    have behind := (tiles.slice g later).1
    rw [List.length_take, List.length_drop]
    omega

end Tiles

end Smb1.Transaction
