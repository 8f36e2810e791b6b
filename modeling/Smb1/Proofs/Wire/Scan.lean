import Smb1.Wire.Reader

/-! Scanning for the end of a string. The bytes that are left decide what it holds, so a scan never
asks for a byte that is not there. -/
namespace Smb1.Wire

/-- The units among the first `room` bytes, up to the first null unit or the last whole unit, and
the bytes they took with the null unit. -/
def scanUnits : (room : Nat) → Bytes → List UInt16 × Nat
  | room + 2, low :: high :: rest =>
    let unit : UInt16 := Word.decode [low, high]
    if unit = 0 then ([], 2)
    else
      let (units, taken) := scanUnits room rest
      (unit :: units, taken + 2)
  | _, _ => ([], 0)

/-- The first `room` bytes up to the first null byte or the end, and how many were taken with the
null byte. -/
def scanBytes : (room : Nat) → Bytes → Bytes × Nat
  | room + 1, byte :: rest =>
    if byte = 0 then ([], 1)
    else
      let (text, taken) := scanBytes room rest
      (byte :: text, taken + 1)
  | _, _ => ([], 0)

theorem scanUnits_of_lt_two {room : Nat} (few : room < 2) (bytes : Bytes) :
    scanUnits room bytes = ([], 0) := by
  match room, few with
  | 0, _ => rfl
  | 1, _ => rfl

theorem scanUnits_min (room : Nat) (bytes : Bytes) :
    scanUnits (min room bytes.length) bytes = scanUnits room bytes := by
  fun_induction scanUnits room bytes with
  | case1 room low high rest unit zero =>
    rw [show min (room + 2) (low :: high :: rest).length = min room rest.length + 2 by
      simp only [List.length_cons]; omega]
    simp only [scanUnits, zero, unit, if_true]
  | case2 room low high rest unit nonzero units taken scanned ih =>
    rw [show min (room + 2) (low :: high :: rest).length = min room rest.length + 2 by
      simp only [List.length_cons]; omega]
    simp only [scanUnits, unit, nonzero, if_false, ih, scanned]
  | case3 room bytes short =>
    refine scanUnits_of_lt_two (Nat.lt_of_not_le fun many => ?_) _
    have enough := Nat.le_min.mp many
    match room, bytes, enough.1, enough.2 with
    | room + 2, low :: high :: rest, _, _ => exact short room low high rest rfl rfl

theorem scanBytes_min (room : Nat) (bytes : Bytes) :
    scanBytes (min room bytes.length) bytes = scanBytes room bytes := by
  induction room generalizing bytes with
  | zero => rw [Nat.zero_min]
  | succ room ih =>
    cases bytes with
    | nil => rfl
    | cons byte rest =>
      rw [List.length_cons, Nat.add_min_add_right]
      simp only [scanBytes, ih rest]

theorem taken_scanUnits_le (room : Nat) (bytes : Bytes) :
    (scanUnits room bytes).2 ≤ bytes.length := by
  fun_induction scanUnits room bytes with
  | case1 => simp
  | case2 room low high rest unit nonzero units taken scanned ih =>
    rw [scanned] at ih
    simp only [List.length_cons]
    omega
  | case3 => exact Nat.zero_le _

theorem taken_scanBytes_le (room : Nat) (bytes : Bytes) :
    (scanBytes room bytes).2 ≤ bytes.length := by
  fun_induction scanBytes room bytes with
  | case1 => simp
  | case2 room byte rest nonzero text taken scanned ih =>
    rw [scanned] at ih
    simp only [List.length_cons]
    omega
  | case3 => exact Nat.zero_le _

namespace Reader

variable {r : Reader}

theorem rest_skip (r : Reader) (count : Nat) : (r.skip count).rest = r.rest.drop count :=
  List.drop_drop.symm

theorem skip_skip (r : Reader) (first second : Nat) :
    (r.skip first).skip second = r.skip (first + second) := by
  simp only [skip, seek, Nat.add_assoc]

theorem length_rest (r : Reader) : r.rest.length = r.length - r.position := List.length_drop

theorem room_eq (r : Reader) (limit : Nat) :
    r.room limit = min (limit - r.position) r.rest.length := by
  rw [length_rest, room]
  omega

theorem position_lt_of_rest {bytes : Bytes} (held : r.rest = bytes) (some : 0 < bytes.length) :
    r.position + bytes.length = r.length := by
  have len := congrArg List.length held
  rw [length_rest] at len
  omega

/-- Units are taken from the bytes that are left. -/
theorem units_eq : ∀ {room : Nat} {r : Reader}, room ≤ r.rest.length →
    r.units room = .ok ((scanUnits room r.rest).1, r.skip (scanUnits room r.rest).2)
  | 0, _, _ => rfl
  | 1, _, _ => rfl
  | room + 2, r, inside => by
    match held : r.rest, inside with
    | low :: high :: rest, inside =>
      have here : r.position + 2 ≤ r.length := by
        have len := position_lt_of_rest held (by simp)
        simp only [List.length_cons] at len
        omega
      have read : Buffer.wordAt UInt16 r.buffer r.position = .ok (Word.decode [low, high]) := by
        rw [Buffer.wordAt_eq_ok here, ← Reader.rest, held]
        rfl
      have behind : (r.skip 2).rest = rest := by rw [rest_skip, held]; rfl
      have left : room ≤ (r.skip 2).rest.length := by rw [behind]; simpa using inside
      have later := units_eq left
      simp only [units, read, bind, Except.bind, scanUnits]
      split
      · rfl
      · rw [later, behind, skip_skip, Nat.add_comm 2]
        rfl

/-- So are bytes. -/
theorem bytes_eq {room : Nat} (inside : room ≤ r.rest.length) :
    r.bytes room = .ok ((scanBytes room r.rest).1, r.skip (scanBytes room r.rest).2) := by
  induction room generalizing r with
  | zero => rfl
  | succ room ih =>
    match held : r.rest, inside with
    | byte :: rest, inside =>
      have here : r.position < r.length := by
        have len := position_lt_of_rest held (by simp)
        simp only [List.length_cons] at len
        omega
      have read : Buffer.byteAt r.buffer r.position = .ok byte := by
        rw [Buffer.byteAt_eq_ok here]
        have headed := List.drop_eq_getElem_cons here
        rw [← Reader.rest, held] at headed
        rw [(List.cons.inj headed).1]
      have behind : (r.skip 1).rest = rest := by rw [rest_skip, held]; rfl
      have later := ih (r := r.skip 1) (by rw [behind]; simpa using inside)
      simp only [bytes, read, bind, Except.bind, scanBytes]
      split
      · rfl
      · rw [later, behind, skip_skip, Nat.add_comm 1]
        rfl

end Reader

namespace Decoder

/-- The bytes that are left bound a scan, whatever the limit. -/
theorem rawUnits_eq (limit : Nat) : rawUnits limit = fun r => do
    discard (Position.add r.position 2)
    let (units, taken) := scanUnits (limit - r.position) r.rest
    return (units, r.skip taken) := by
  funext r
  simp only [rawUnits, r.room_eq, Reader.units_eq (Nat.min_le_right ..), scanUnits_min]
  rfl

theorem oemString_eq (limit : Nat) : oemString limit = fun r =>
    let (bytes, taken) := scanBytes (limit - r.position) r.rest
    .ok (Text.Latin1.decode bytes, r.skip taken) := by
  funext r
  simp only [oemString, r.room_eq, Reader.bytes_eq (Nat.min_le_right ..), scanBytes_min]
  rfl

end Decoder

end Smb1.Wire
