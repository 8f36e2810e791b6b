import Mathlib.Order.Bounds.Basic
import Smb1.Transaction.Layout

/-! How a buffer is shared out. Each payload of a frame starts on the first boundary that is free,
and as much of it is taken as the buffer has room for. That leaves one layout, and it is the one that
`Layout.fit` gives. -/
namespace Smb1

namespace Alignment

theorem isLeast_up (a : Alignment) (position : Nat) :
    IsLeast {offset | a.value ∣ offset ∧ position ≤ offset} (a.up position) := by
  have boundary : a.value ∣ a.up position := Nat.dvd_of_mod_eq_zero (a.up_mod position)
  constructor
  · exact ⟨boundary, a.le_up position⟩
  · intro offset free
    by_contra earlier
    -- A boundary before this one is a whole step before it, and so lies before the position.
    have near := a.up_lt position
    have step : a.value ≤ a.up position - offset :=
      Nat.le_of_dvd (by omega) (Nat.dvd_sub boundary free.1)
    have behind := free.2
    omega

end Alignment

namespace Transaction.Layout

variable {bytesStart nameLength maxBufferSize parametersLeft dataLeft : Nat} {a : Alignment}
  {l : Layout}

/-- Where a frame ends. Data that a frame does not carry is not padded to. -/
def stop (l : Layout) : Nat :=
  if l.dataCount = 0 then l.parameterOffset + l.parameterCount else l.dataOffset + l.dataCount

theorem stop_le {limit : Nat} (parameters : l.parameterOffset + l.parameterCount ≤ limit)
    (data : l.dataCount ≠ 0 → l.dataOffset + l.dataCount ≤ limit) : l.stop ≤ limit := by
  unfold stop
  split
  · exact parameters
  next some => exact data some

/-- What a frame takes of what is left when it fills the buffer from the front: nothing starts later
than it has to, the data waits for the parameters, and neither could be any longer. -/
structure Greedy (bytesStart nameLength : Nat) (a : Alignment)
    (maxBufferSize parametersLeft dataLeft : Nat) (l : Layout) : Prop where
  parameterOffset :
    IsLeast {offset | a.value ∣ offset ∧ bytesStart + nameLength ≤ offset} l.parameterOffset
  dataOffset :
    IsLeast {offset | a.value ∣ offset ∧ l.parameterOffset + l.parameterCount ≤ offset} l.dataOffset
  parameterCount : l.parameterCount ≤ parametersLeft
  dataCount : l.dataCount ≤ dataLeft
  inside : l.parameterOffset ≤ maxBufferSize → l.stop ≤ maxBufferSize
  ordered : l.dataCount ≠ 0 → l.parameterCount = parametersLeft
  parametersFull : ∀ count ≤ parametersLeft, l.parameterCount < count →
    maxBufferSize < l.parameterOffset + count
  dataFull : ∀ count ≤ dataLeft, l.dataCount < count → maxBufferSize < l.dataOffset + count
  closed : maxBufferSize ≤ l.parameterOffset → l.parameterCount = 0 ∧ l.dataCount = 0

namespace Greedy

variable (g : l.Greedy bytesStart nameLength a maxBufferSize parametersLeft dataLeft)

include g

theorem parameterCount_eq :
    l.parameterCount = min parametersLeft (maxBufferSize - l.parameterOffset) := by
  have most := g.parameterCount
  have full := g.parametersFull (l.parameterCount + 1)
  by_cases room : l.parameterOffset ≤ maxBufferSize
  · have inside := g.inside room
    have behind : l.parameterOffset + l.parameterCount ≤ l.dataOffset := g.dataOffset.1.2
    unfold stop at inside
    split at inside <;> omega
  · have closed := g.closed (by omega)
    omega

theorem dataCount_eq : l.dataCount = min dataLeft (maxBufferSize - l.dataOffset) := by
  have most := g.dataCount
  have full := g.dataFull (l.dataCount + 1)
  have behind : l.parameterOffset + l.parameterCount ≤ l.dataOffset := g.dataOffset.1.2
  by_cases none : l.dataCount = 0
  · omega
  · have room : ¬maxBufferSize ≤ l.parameterOffset := fun outside => none (g.closed outside).2
    have inside := g.inside (by omega)
    rw [stop, if_neg none] at inside
    omega

end Greedy

/-- The padding in front of the data is taken from the room that the parameters leave. -/
theorem greedy_fit (bytesStart nameLength : Nat) (a : Alignment)
    (maxBufferSize parametersLeft dataLeft : Nat) :
    (fit bytesStart nameLength a maxBufferSize parametersLeft dataLeft).Greedy bytesStart nameLength
      a maxBufferSize parametersLeft dataLeft := by
  have behind := a.le_up (a.up (bytesStart + nameLength) +
    min parametersLeft (maxBufferSize - a.up (bytesStart + nameLength)))
  constructor
  case parameterOffset => exact a.isLeast_up _
  case dataOffset => exact a.isLeast_up _
  case inside =>
    intro room
    apply stop_le
    · simp only [fit] at room ⊢
      omega
    · intro some
      simp only [fit] at some ⊢
      omega
  all_goals
    simp only [fit]
    omega

theorem Greedy.unique {l' : Layout}
    (g : l.Greedy bytesStart nameLength a maxBufferSize parametersLeft dataLeft)
    (g' : l'.Greedy bytesStart nameLength a maxBufferSize parametersLeft dataLeft) : l = l' := by
  have parameterOffset : l.parameterOffset = l'.parameterOffset :=
    g.parameterOffset.unique g'.parameterOffset
  have parameterCount : l.parameterCount = l'.parameterCount := by
    rw [g.parameterCount_eq, g'.parameterCount_eq, parameterOffset]
  have dataOffset : l.dataOffset = l'.dataOffset := by
    have least := g.dataOffset
    rw [parameterOffset, parameterCount] at least
    exact least.unique g'.dataOffset
  have dataCount : l.dataCount = l'.dataCount := by
    rw [g.dataCount_eq, g'.dataCount_eq, dataOffset]
  cases l
  cases l'
  simp only [mk.injEq]
  exact ⟨parameterOffset, parameterCount, dataOffset, dataCount⟩

/-- A frame does not reach over the end of a buffer. A buffer that the words of the frame overrun
has nothing put in. -/
theorem stop_fit_le {stop : Nat} (begins : a.up (bytesStart + nameLength) ≤ stop)
    (small : maxBufferSize ≤ stop) :
    (fit bytesStart nameLength a maxBufferSize parametersLeft dataLeft).stop ≤ stop := by
  have f := greedy_fit bytesStart nameLength a maxBufferSize parametersLeft dataLeft
  by_cases room : a.up (bytesStart + nameLength) ≤ maxBufferSize
  · exact Nat.le_trans (f.inside room) small
  · obtain ⟨parameters, data⟩ := f.closed (Nat.le_of_not_le room)
    rw [Layout.stop, if_pos data, parameters]
    exact begins

/-- Where there is room at all, some of what is left is taken. -/
theorem fit_progress (room : a.up (bytesStart + nameLength) < maxBufferSize)
    (left : 0 < parametersLeft + dataLeft) :
    let l := fit bytesStart nameLength a maxBufferSize parametersLeft dataLeft
    0 < l.parameterCount + l.dataCount := by
  intro l
  have f : l.Greedy .. := greedy_fit bytesStart nameLength a maxBufferSize parametersLeft dataLeft
  have parameterOffset : l.parameterOffset = a.up (bytesStart + nameLength) := rfl
  have parameters := f.parameterCount_eq
  have data := f.dataCount_eq
  by_contra none
  have start : l.dataOffset = l.parameterOffset := by
    have least := f.dataOffset.2 ⟨f.parameterOffset.1.1, by omega⟩
    have behind := f.dataOffset.1.2
    omega
  omega

/-- A layout fills the buffer from the front exactly when it is the one that fits. -/
theorem greedy_iff_eq_fit :
    l.Greedy bytesStart nameLength a maxBufferSize parametersLeft dataLeft ↔
      l = fit bytesStart nameLength a maxBufferSize parametersLeft dataLeft := by
  constructor
  · intro g
    exact g.unique (greedy_fit ..)
  · rintro rfl
    exact greedy_fit ..

/-- One byte in front of the parameters and one in front of the data stay free. -/
example : fit 63 0 .two 100 3 100 = ⟨64, 3, 68, 32⟩ := by decide

end Transaction.Layout

end Smb1
