/-! Byte strings and the fixed-width little-endian words in them. A byte string is a list, so
that a message is a concatenation of its fields and a field is a slice of a message. -/
namespace Smb1

abbrev Bytes := List UInt8

/-- A byte string of a length fixed by the format. -/
abbrev Octets (n : Nat) := { bytes : Bytes // bytes.length = n }

namespace Octets

def zero (n : Nat) : Octets n := ⟨List.replicate n 0, List.length_replicate⟩

instance : Inhabited (Octets n) := ⟨zero n⟩

def ofBytes? (n : Nat) (bytes : Bytes) : Option (Octets n) :=
  if h : bytes.length = n then some ⟨bytes, h⟩ else none

end Octets

/-- The low `width` base-256 digits of `n`, least significant first. -/
def leBytes : (width : Nat) → (n : Nat) → Bytes
  | 0, _ => []
  | width + 1, n => UInt8.ofNat n :: leBytes width (n / 256)

def leNat : Bytes → Nat
  | [] => 0
  | b :: bs => b.toNat + 256 * leNat bs

@[simp] theorem length_leBytes (width n : Nat) : (leBytes width n).length = width := by
  induction width generalizing n with
  | zero => rfl
  | succ width ih => simp [leBytes, ih]

/-- How many numbers a field of `width` bytes can hold. -/
def capacity : (width : Nat) → Nat
  | 0 => 1
  | width + 1 => 256 * capacity width

/-- Writing keeps a number modulo the field's range. -/
theorem leNat_leBytes (width n : Nat) : leNat (leBytes width n) = n % capacity width := by
  induction width generalizing n with
  | zero => simp [leBytes, leNat, capacity, Nat.mod_one]
  | succ width ih =>
    rw [leBytes, leNat, ih, capacity, Nat.mod_mul]
    simp

/-- An unsigned word of a whole number of bytes. -/
class Word (W : Type) where
  size : Nat
  toNat : W → Nat
  ofNat : Nat → W
  toNat_lt : ∀ w, toNat w < capacity size
  ofNat_toNat : ∀ w, ofNat (toNat w) = w

instance : Word UInt8 := ⟨1, UInt8.toNat, UInt8.ofNat, UInt8.toNat_lt, by simp⟩
instance : Word UInt16 := ⟨2, UInt16.toNat, UInt16.ofNat, UInt16.toNat_lt, by simp⟩
instance : Word UInt32 := ⟨4, UInt32.toNat, UInt32.ofNat, UInt32.toNat_lt, by simp⟩
instance : Word UInt64 := ⟨8, UInt64.toNat, UInt64.ofNat, UInt64.toNat_lt, by simp⟩

namespace Word

variable {W : Type} [Word W]

def encode (w : W) : Bytes := leBytes (size W) (toNat w)

def decode (bytes : Bytes) : W := ofNat (leNat (bytes.take (size W)))

@[simp] theorem length_encode (w : W) : (encode w).length = size W := length_leBytes ..

@[simp] theorem decode_encode_append (w : W) (rest : Bytes) : decode (encode w ++ rest) = w := by
  have h : (encode w ++ rest).take (size W) = encode w := by
    rw [List.take_append_of_le_length (by simp), List.take_of_length_le (by simp)]
  rw [decode, h, encode, leNat_leBytes, Nat.mod_eq_of_lt (toNat_lt w), ofNat_toNat]

/-- The word at `index` of a buffer the caller has sized; `none` when it does not lie inside. -/
def at? (buffer : Bytes) (index : Nat) : Option W :=
  if index + size W ≤ buffer.length then some (decode (buffer.drop index)) else none

/-- The buffer with the word at `index` replaced. -/
def set? (w : W) (buffer : Bytes) (index : Nat) : Option Bytes :=
  if index + size W ≤ buffer.length then
    some (buffer.take index ++ encode w ++ buffer.drop (index + size W))
  else none

end Word

end Smb1
