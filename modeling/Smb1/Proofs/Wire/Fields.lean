import Smb1.Proofs.Wire.Reads

/-! Fields that go on the wire in another form: numbers in two halves, and times. -/
namespace Smb1

theorem toNat_joined32 {high : UInt32} {low : UInt16} (small : high.toNat < 0x10000) :
    (high <<< 16 ||| low.toUInt32).toNat = high.toNat * 0x10000 + low.toNat := by
  have shift : high.toNat <<< 16 % 2 ^ 32 = high.toNat <<< 16 := by
    rw [Nat.shiftLeft_eq]
    exact Nat.mod_eq_of_lt (by omega)
  have width : (16 : UInt32).toNat % 32 = 16 := rfl
  rw [UInt32.toNat_or, UInt32.toNat_shiftLeft, width, shift, UInt16.toNat_toUInt32,
    ← Nat.shiftLeft_add_eq_or_of_lt low.toNat_lt, Nat.shiftLeft_eq]

theorem toNat_joined16 (high low : UInt16) :
    (high.toUInt32 <<< 16 ||| low.toUInt32).toNat = high.toNat * 0x10000 + low.toNat := by
  have lt := high.toNat_lt
  rw [toNat_joined32 (by rw [UInt16.toNat_toUInt32]; exact lt), UInt16.toNat_toUInt32]

theorem toNat_joined64 (high low : UInt32) :
    (high.toUInt64 <<< 32 ||| low.toUInt64).toNat = high.toNat * 0x100000000 + low.toNat := by
  have lt := high.toNat_lt
  have shift : high.toNat <<< 32 % 2 ^ 64 = high.toNat <<< 32 := by
    rw [Nat.shiftLeft_eq]
    exact Nat.mod_eq_of_lt (by omega)
  have width : (32 : UInt64).toNat % 64 = 32 := rfl
  rw [UInt64.toNat_or, UInt64.toNat_shiftLeft, width, UInt32.toNat_toUInt64, shift,
    UInt32.toNat_toUInt64, ← Nat.shiftLeft_add_eq_or_of_lt low.toNat_lt, Nat.shiftLeft_eq]

theorem toNat_high64 (n : UInt64) : (n >>> 32).toNat = n.toNat / 0x100000000 := by
  have width : (32 : UInt64).toNat % 64 = 32 := rfl
  rw [UInt64.toNat_shiftRight, width, Nat.shiftRight_eq_div_pow]

theorem toNat_high32 (n : UInt32) : (n >>> 16).toNat = n.toNat / 0x10000 := by
  have width : (16 : UInt32).toNat % 32 = 16 := rfl
  rw [UInt32.toNat_shiftRight, width, Nat.shiftRight_eq_div_pow]

theorem joined_offset (n : UInt64) :
    (n >>> 32).toUInt32.toUInt64 <<< 32 ||| n.toUInt32.toUInt64 = n := by
  have lt := n.toNat_lt
  apply UInt64.toNat_inj.mp
  rw [toNat_joined64]
  simp only [UInt64.toNat_toUInt32, toNat_high64]
  omega

theorem joined_words (n : UInt32) :
    (n >>> 16).toUInt16.toUInt32 <<< 16 ||| n.toUInt16.toUInt32 = n := by
  have lt := n.toNat_lt
  apply UInt32.toNat_inj.mp
  rw [toNat_joined16]
  simp only [UInt32.toNat_toUInt16, toNat_high32]
  omega

theorem joined_count (n : UInt32) :
    (n >>> 16 &&& 0xFFFF) <<< 16 ||| n.toUInt16.toUInt32 = n := by
  have lt := n.toNat_lt
  have high : (n >>> 16 &&& 0xFFFF).toNat = n.toNat / 0x10000 := by
    have mask : (0xFFFF : UInt32).toNat = 2 ^ 16 - 1 := rfl
    rw [UInt32.toNat_and, mask, Nat.and_two_pow_sub_one_eq_mod, toNat_high32]
    omega
  apply UInt32.toNat_inj.mp
  rw [toNat_joined32 (by omega), high]
  simp only [UInt32.toNat_toUInt16]
  omega

theorem toNat_joined_length {n : Nat} (h : n < 0x100000000) :
    ((UInt16.ofNat (n / 0x10000)).toUInt32 <<< 16 ||| (UInt16.ofNat n).toUInt32).toNat = n := by
  rw [toNat_joined16]
  simp only [UInt16.toNat_ofNat']
  omega

namespace Time

/-- The last instant that a file time has. -/
def last : Int := ofFileTime (UInt64.ofNat (UInt64.size - 1))

theorem ticks_lt_size_iff {millis : Int} :
    (millis + epochShift).toNat * 10000 < UInt64.size ↔ millis ≤ last := by
  have instant : last = 1833029933770955 := rfl
  have size : UInt64.size = 18446744073709551616 := rfl
  rw [instant, size, epochShift]
  omega

/-- Only the times behind the last instant are refused. -/
theorem toFileTime_eq_ok_iff {millis : Int} :
    (∃ ticks, toFileTime millis = .ok ticks) ↔ millis ≤ last := by
  unfold toFileTime
  by_cases zero : millis = 0
  · subst zero
    exact iff_of_true ⟨0, rfl⟩ (by decide)
  · by_cases early : millis ≤ last <;> simp [zero, ticks_lt_size_iff, early]

/-- Times that a file time can show: none at all, and those after its first instant. -/
def Shown (millis : Int) : Prop :=
  millis = 0 ∨ -epochShift < millis ∧ (millis + epochShift).toNat * 10000 < UInt64.size

def ticks (millis : Int) : UInt64 :=
  if millis = 0 then 0 else UInt64.ofNat ((millis + epochShift).toNat * 10000)

theorem toFileTime_of_shown {millis : Int} (h : Shown millis) :
    toFileTime millis = .ok (ticks millis) := by
  unfold toFileTime ticks
  by_cases zero : millis = 0
  · simp [zero]
  · have small := (h.resolve_left zero).2
    rw [if_neg zero, if_neg zero, if_pos small]

theorem ofFileTime_ticks {millis : Int} (h : Shown millis) :
    ofFileTime (ticks millis) = millis := by
  unfold ofFileTime ticks
  by_cases zero : millis = 0
  · simp [zero]
  · obtain ⟨after, small⟩ := h.resolve_left zero
    have positive : 0 < (millis + epochShift).toNat := by
      unfold epochShift at *
      omega
    have value : (UInt64.ofNat ((millis + epochShift).toNat * 10000)).toNat =
        (millis + epochShift).toNat * 10000 := by
      rw [UInt64.toNat_ofNat', Nat.mod_eq_of_lt small]
    have nonzero : UInt64.ofNat ((millis + epochShift).toNat * 10000) ≠ 0 := by
      intro none
      have := congrArg UInt64.toNat none
      rw [value, UInt64.toNat_zero] at this
      omega
    rw [if_neg zero, if_neg nonzero, value, Nat.mul_div_cancel _ (by decide)]
    unfold epochShift at *
    omega

end Time

@[simp] theorem Wire.Encoder.length_bytesAt_fileTime (millis : Int) (start : Nat)
    (unicode : Bool) : ((fileTime millis).bytesAt start unicode).length = 8 := by
  unfold fileTime
  split
  · rw [bytesAt_u64, Word.length_encode, size_u64]
  · rfl

open Wire in
theorem Wire.Reads.fileTime {limit start : Nat} {unicode : Bool} {millis : Int}
    (h : Time.Shown millis) :
    Reads limit start unicode (.fileTime millis) Decoder.u64 (Time.ticks millis) := by
  unfold Encoder.fileTime
  rw [Time.toFileTime_of_shown h]
  exact u64

end Smb1
