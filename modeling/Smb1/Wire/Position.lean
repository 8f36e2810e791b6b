import Smb1.Error

/-! Positions in a message. They are 64-bit numbers, and every sum on the way to a position has to
be one too. -/
namespace Smb1.Wire.Position

/-- The first number that is no position. -/
def limit : Nat := UInt64.size

/-- The position `count` behind another. -/
def add (position count : Nat) : Except Error Nat :=
  let stop := position + count
  if stop < limit then .ok stop else .error (.outOfRange (.position stop))

/-- The next position on a boundary. The whole boundary is added before what is too much is taken
off again. -/
def align (a : Alignment) (position : Nat) : Except Error Nat :=
  if position % a.value = 0 then .ok position
  else do
    let stop ← add position a.value
    .ok (stop - position % a.value)

theorem add_eq_ok_iff {position count stop : Nat} :
    add position count = .ok stop ↔ stop = position + count ∧ stop < limit := by
  by_cases h : position + count < limit <;> simp only [add, h, if_true, if_false]
  · simp only [Except.ok.injEq]
    omega
  · simp only [reduceCtorEq, false_iff]
    omega

theorem align_eq_up (a : Alignment) {position : Nat} (h : position + a.value < limit) :
    align a position = .ok (a.up position) := by
  unfold align Alignment.up
  split
  · rfl
  · rw [add_eq_ok_iff.mpr ⟨rfl, h⟩]
    rfl

end Smb1.Wire.Position
