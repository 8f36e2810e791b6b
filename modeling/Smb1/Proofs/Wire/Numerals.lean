import Smb1.Proofs.Wire.Fields

/-! Numbers in a message. An encoder writes the low digits of a number that it is given, so a field
shows the number exactly when it is wide enough. -/
namespace Smb1

/-- Writing keeps the low digits of a number. -/
theorem leBytes_mod (width n : Nat) : leBytes width (n % capacity width) = leBytes width n := by
  induction width generalizing n with
  | zero => rfl
  | succ width ih =>
    have low : UInt8.ofNat (n % capacity (width + 1)) = UInt8.ofNat n := by
      apply UInt8.toNat_inj.mp
      simp only [UInt8.toNat_ofNat', capacity]
      exact Nat.mod_mul_right_mod n 256 (capacity width)
    rw [leBytes, leBytes, low, capacity, Nat.mod_mul_right_div_self, ih]

theorem leBytes_add (low high n : Nat) :
    leBytes (low + high) n = leBytes low n ++ leBytes high (n / capacity low) := by
  induction low generalizing n with
  | zero => rw [Nat.zero_add, capacity, Nat.div_one]; rfl
  | succ low ih =>
    rw [Nat.add_right_comm, leBytes, leBytes, ih, capacity, Nat.div_div_eq_div_mul]
    rfl

theorem capacity_pos (width : Nat) : 0 < capacity width := by
  induction width with
  | zero => decide
  | succ width ih => exact Nat.mul_pos (by decide) ih

theorem capacity_le {width more : Nat} (le : width ≤ more) : capacity width ≤ capacity more := by
  induction le with
  | refl => exact Nat.le_refl _
  | step _ ih => exact Nat.le_trans ih (Nat.le_mul_of_pos_left _ (by decide))

namespace Wire

/-- The bytes from a position on. -/
def slice (data : Bytes) (range : Nat × Nat) : Bytes := (data.drop range.1).take range.2

/-- What a number says of the message that it stands in. -/
inductive Quantity
  | wordCount
  | byteCount
  /-- Where the next link starts. -/
  | successor
  /-- How long a payload is. -/
  | length (payload : Bytes)
  /-- Where a payload lies behind `origin`. -/
  | offset (origin : Nat) (payload : Bytes)
  /-- How many items a list has. -/
  | count
  /-- Bytes of an entry of a list. -/
  | entrySize
  /-- Bytes of a path that is referred elsewhere. -/
  | consumed
  /-- Nothing; a body has it from elsewhere. -/
  | given

/-- The number counts bytes of the message that it stands in. -/
def Quantity.Measures : Quantity → Prop
  | byteCount | successor | length _ => True
  | offset _ payload => payload ≠ []
  | wordCount | count | entrySize | consumed | given => False

/-- The number is never cut down. An offset is compared with its field before it is written. The
consumed length is a product in the width of its field, and where that overflows there is nothing
to write. -/
def Quantity.Whole : Quantity → Prop
  | offset .. | consumed => True
  | wordCount | byteCount | successor | length _ | count | entrySize | given => False

/-- A number of a message: the ranges that its bytes take, lowest first, and what it should be. -/
structure Numeral where
  quantity : Quantity
  ranges : List (Nat × Nat)
  value : Nat

namespace Numeral

variable {n : Numeral} {data before after : Bytes} {quantity : Quantity} {position value : Nat}

/-- Bytes of some ranges. -/
def total (ranges : List (Nat × Nat)) : Nat :=
  ranges.foldr (fun range rest => range.2 + rest) 0

def width (n : Numeral) : Nat := total n.ranges

/-- The number that a reader finds. -/
def shown (n : Numeral) (data : Bytes) : Nat := leNat (n.ranges.flatMap (slice data))

/-- The ranges are wide enough. -/
def Fits (n : Numeral) : Prop := n.value < capacity n.width

instance (n : Numeral) : Decidable n.Fits := inferInstanceAs (Decidable (_ < _))

/-- The number moved behind `count` more bytes. -/
def shift (count : Nat) (n : Numeral) : Numeral :=
  { n with ranges := n.ranges.map fun range => (count + range.1, range.2) }

/-- The low digits of the number are there. -/
def Truncates (data : Bytes) (n : Numeral) : Prop :=
  n.ranges.flatMap (slice data) = leBytes n.width n.value

/-- What a number tells of the bytes that lie from `start` on. -/
def Describes (start : Nat) (bytes : Bytes) (n : Numeral) : Prop :=
  match n.quantity with
  | .length payload => n.value = payload.length ∧ payload <:+: bytes
  | .offset origin payload => payload ≠ [] → ∃ before after,
      bytes = before ++ payload ++ after ∧ origin + n.value = start + before.length
  | .byteCount | .successor => n.value ≤ start + bytes.length
  | .wordCount | .count | .entrySize | .consumed | .given => True

/-- What is truncated is right exactly when nothing is cut off. -/
theorem Truncates.shown_iff (h : n.Truncates data) : n.shown data = n.value ↔ n.Fits := by
  rw [shown, h, leNat_leBytes, Fits]
  exact ⟨fun same => same ▸ Nat.mod_lt _ (capacity_pos _), Nat.mod_eq_of_lt⟩

@[simp] theorem width_shift (count : Nat) : (n.shift count).width = n.width := by
  simp [width, total, shift, List.foldr_map]

theorem slice_within {range : Nat × Nat} (full : (slice data range).length = range.2) :
    slice (before ++ data ++ after) (before.length + range.1, range.2) = slice data range := by
  have enough : range.2 ≤ (data.drop range.1).length := by
    rw [slice, List.length_take] at full
    omega
  rw [slice, slice, List.append_assoc, List.drop_length_add_append, List.drop_append,
    List.take_append_of_le_length enough]

theorem full_of_total {ranges : List (Nat × Nat)}
    (whole : (ranges.flatMap (slice data)).length = total ranges) :
    ∀ range ∈ ranges, (slice data range).length = range.2 := by
  have most (range : Nat × Nat) : (slice data range).length ≤ range.2 := List.length_take_le ..
  have all (ranges : List (Nat × Nat)) :
      (ranges.flatMap (slice data)).length ≤ total ranges := by
    induction ranges with
    | nil => exact Nat.le_refl 0
    | cons range rest ih =>
      rw [List.flatMap_cons, List.length_append]
      exact Nat.add_le_add (most range) ih
  induction ranges with
  | nil => nofun
  | cons range rest ih =>
    rw [List.flatMap_cons, List.length_append, total, List.foldr_cons, ← total] at whole
    have first := most range
    have others := all rest
    rintro r (_ | ⟨_, later⟩)
    · omega
    · exact ih (by omega) r later

/-- A number stays what it is when its message grows in front and behind. -/
theorem Truncates.within (h : n.Truncates data) (before after : Bytes) :
    (n.shift before.length).Truncates (before ++ data ++ after) := by
  -- As many bytes are there as the ranges ask for, so none of the ranges ends early.
  have total := congrArg List.length h
  rw [length_leBytes] at total
  have same : (n.shift before.length).ranges.flatMap (slice (before ++ data ++ after)) =
      n.ranges.flatMap (slice data) := by
    rw [shift, List.flatMap_map, List.flatMap_def, List.flatMap_def]
    exact congrArg List.flatten (List.map_congr_left fun range member =>
      slice_within (full_of_total total range member))
  rw [Truncates, same, width_shift]
  exact h

/-- What is told of a part holds of the whole message. -/
theorem Describes.within {start : Nat} {bytes : Bytes} (h : n.Describes start bytes) (count : Nat)
    (here : before.length = start) (after : Bytes) :
    (n.shift count).Describes 0 (before ++ bytes ++ after) := by
  obtain ⟨quantity, ranges, value⟩ := n
  cases quantity with
  | length payload => exact ⟨h.1, h.2.trans (List.infix_append ..)⟩
  | offset origin payload =>
    intro some
    obtain ⟨front, back, rfl, place⟩ := h some
    refine ⟨before ++ front, back ++ after, by simp only [List.append_assoc], ?_⟩
    rw [List.length_append, here, Nat.zero_add]
    exact place
  | byteCount | successor =>
    have inside : value ≤ start + bytes.length := h
    show value ≤ 0 + (before ++ bytes ++ after).length
    simp only [List.length_append]
    omega
  | wordCount | count | entrySize | consumed | given => trivial

/-- What counts bytes of a message is no greater than the message. -/
theorem Describes.value_le (h : n.Describes 0 data) (measures : n.quantity.Measures) :
    n.value ≤ data.length := by
  obtain ⟨quantity, ranges, value⟩ := n
  cases quantity with
  | byteCount | successor => exact Nat.zero_add data.length ▸ h
  | length payload => exact h.1 ▸ h.2.length_le
  | offset origin payload =>
    obtain ⟨before, after, rfl, place⟩ := h measures
    show value ≤ (before ++ payload ++ after).length
    have place : origin + value = 0 + before.length := place
    simp only [List.length_append]
    omega
  | wordCount | count | entrySize | consumed | given => exact measures.elim

theorem Truncates.low {width : Nat} (held : slice data (position, width) = leBytes width value) :
    Truncates data ⟨quantity, [(position, width)], value⟩ := by
  simp [Truncates, Numeral.width, total, held]

theorem Truncates.word {W : Type} [Word W] (w : W)
    (held : slice data (position, Word.size W) = Word.encode w) :
    Truncates data ⟨quantity, [(position, Word.size W)], Word.toNat w⟩ := .low held

theorem Truncates.u8 (held : slice data (position, 1) = Word.encode (UInt8.ofNat value)) :
    Truncates data ⟨quantity, [(position, 1)], value⟩ := .low (held.trans (leBytes_mod 1 value))

theorem Truncates.u16 (held : slice data (position, 2) = Word.encode (UInt16.ofNat value)) :
    Truncates data ⟨quantity, [(position, 2)], value⟩ := .low (held.trans (leBytes_mod 2 value))

theorem Truncates.u32 (held : slice data (position, 4) = Word.encode (UInt32.ofNat value)) :
    Truncates data ⟨quantity, [(position, 4)], value⟩ := .low (held.trans (leBytes_mod 4 value))

/-- A number in two halves. -/
theorem Truncates.halves {low high : Nat × Nat} (lower : slice data low = leBytes low.2 value)
    (upper : slice data high = leBytes high.2 (value / capacity low.2)) :
    Truncates data ⟨quantity, [low, high], value⟩ := by
  simp [Truncates, width, total, lower, upper, leBytes_add]

/-- Numbers of one width, one behind the other. -/
def run (position width : Nat) : List (Quantity × Nat) → List Numeral
  | [] => []
  | (quantity, value) :: rest =>
    ⟨quantity, [(position, width)], value⟩ :: run (position + width) width rest

end Numeral

/-- Whatever the time is, its field is a word. -/
theorem Encoder.bytesAt_fileTime (millis : Int) : ∃ ticks : UInt64, ∀ start unicode,
    (fileTime millis).bytesAt start unicode = Word.encode ticks := by
  unfold fileTime
  cases Time.toFileTime millis with
  | ok ticks => exact ⟨ticks, fun _ _ => bytesAt_u64 ..⟩
  | error e => exact ⟨0, fun _ _ => rfl⟩

end Wire

theorem encode_toUInt16 (n : UInt32) : Word.encode n.toUInt16 = leBytes 2 n.toNat := by
  rw [Word.encode, ← leBytes_mod 2 n.toNat]
  exact congrArg (leBytes 2) (UInt32.toNat_toUInt16 n)

theorem encode_high32 (n : UInt32) : Word.encode (n >>> 16) = leBytes 4 (n.toNat / capacity 2) :=
  congrArg (leBytes 4) (toNat_high32 n)

theorem encode_toUInt32 (n : UInt64) : Word.encode n.toUInt32 = leBytes 4 n.toNat := by
  rw [Word.encode, ← leBytes_mod 4 n.toNat]
  exact congrArg (leBytes 4) (UInt64.toNat_toUInt32 n)

theorem encode_high64 (n : UInt64) :
    Word.encode (n >>> 32).toUInt32 = leBytes 4 (n.toNat / capacity 4) := by
  rw [encode_toUInt32, toNat_high64]
  rfl

end Smb1
