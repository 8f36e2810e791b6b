/-! Boundaries that strings and payloads start on, measured from the start of the header. -/
namespace Smb1

structure Alignment where
  value : Nat
  pos : 0 < value
  deriving DecidableEq, Repr

namespace Alignment

def two : Alignment := ⟨2, by decide⟩
def four : Alignment := ⟨4, by decide⟩

def ofNat? (n : Nat) : Option Alignment := if h : 0 < n then some ⟨n, h⟩ else none

/-- The least multiple of the boundary at or after `position`. -/
def up (a : Alignment) (position : Nat) : Nat :=
  if position % a.value = 0 then position else position + a.value - position % a.value

theorem up_mod (a : Alignment) (position : Nat) : a.up position % a.value = 0 := by
  have lt := Nat.mod_lt position a.pos
  have split := Nat.div_add_mod position a.value
  unfold up
  split
  · assumption
  · have whole : position + a.value - position % a.value = a.value * (position / a.value + 1) := by
      rw [Nat.mul_add, Nat.mul_one]; omega
    rw [whole, Nat.mul_mod_right]

theorem le_up (a : Alignment) (position : Nat) : position ≤ a.up position := by
  have lt := Nat.mod_lt position a.pos
  unfold up
  split <;> omega

theorem up_lt (a : Alignment) (position : Nat) : a.up position < position + a.value := by
  have lt := Nat.mod_lt position a.pos
  unfold up
  split <;> omega

end Alignment

end Smb1
