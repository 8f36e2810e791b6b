import Smb1.Wire.Position

/-! Bytes that are taken from a buffer without asking whether they are there. Where they are not,
the fault is not in the bytes. -/
namespace Smb1.Wire.Buffer

/-- The bytes from `start` up to `stop`. -/
def between (buffer : Bytes) (start stop : Nat) : Except Error Bytes :=
  if start ≤ stop ∧ stop ≤ buffer.length then .ok ((buffer.drop start).take (stop - start))
  else .error (.outOfRange (.slice start stop buffer.length))

def byteAt (buffer : Bytes) (index : Nat) : Except Error UInt8 :=
  match buffer[index]? with
  | some byte => .ok byte
  | none => .error (.outOfRange (.slice index (index + 1) buffer.length))

def wordAt (W : Type) [Word W] (buffer : Bytes) (index : Nat) : Except Error W :=
  Word.decode <$> between buffer index (index + Word.size W)

/-- How many bytes a buffer of `length` bytes has behind the first `start`. -/
def behind (start length : Nat) : Except Error Nat :=
  if start ≤ length then .ok (length - start)
  else .error (.outOfRange (.slice start length length))

/-- Bytes copied into a field of `width` bytes. -/
def field (width : Nat) (bytes : Bytes) : Except Error (Octets width) :=
  match Octets.ofBytes? width bytes with
  | some octets => .ok octets
  | none => .error (.outOfRange (.copy bytes.length width))

/-- Makes sure that `count` bytes can be copied over those from `start` up to `stop` of a buffer of
`length` bytes. -/
def checkCopy (length start stop count : Nat) : Except Error Unit :=
  if start ≤ stop ∧ stop ≤ length then
    if stop - start = count then .ok () else .error (.outOfRange (.copy count (stop - start)))
  else .error (.outOfRange (.slice start stop length))

theorem between_eq_ok {buffer : Bytes} {start stop : Nat} (forward : start ≤ stop)
    (inside : stop ≤ buffer.length) :
    between buffer start stop = .ok ((buffer.drop start).take (stop - start)) :=
  if_pos ⟨forward, inside⟩

theorem byteAt_eq_ok {buffer : Bytes} {index : Nat} (inside : index < buffer.length) :
    byteAt buffer index = .ok buffer[index] := by
  rw [byteAt, List.getElem?_eq_getElem inside]

theorem wordAt_eq_ok {W : Type} [Word W] {buffer : Bytes} {index : Nat}
    (inside : index + Word.size W ≤ buffer.length) :
    wordAt W buffer index = .ok (Word.decode (buffer.drop index)) := by
  rw [wordAt, between_eq_ok (Nat.le_add_right ..) inside, Nat.add_sub_cancel_left]
  simp [Functor.map, Except.map, Word.decode, List.take_take]

theorem behind_eq_ok {start length : Nat} (forward : start ≤ length) :
    behind start length = .ok (length - start) := if_pos forward

theorem field_eq_ok {width : Nat} {bytes : Bytes} (same : bytes.length = width) :
    field width bytes = .ok ⟨bytes, same⟩ := by
  rw [field, Octets.ofBytes?, dif_pos same]

theorem checkCopy_eq_ok {length start stop count : Nat} (inside : stop ≤ length)
    (same : start + count = stop) : checkCopy length start stop count = .ok () := by
  rw [checkCopy, if_pos (by omega), if_pos (by omega)]

end Smb1.Wire.Buffer
