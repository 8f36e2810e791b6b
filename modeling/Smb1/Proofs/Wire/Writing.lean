import Smb1.Proofs.Wire.Reads
import Smb1.Wire.Writer

/-! What a writer holds after an encoder was put into it, and when it takes one. -/
namespace Smb1.Wire

/-- A piece with bytes of its own. -/
def Piece.Real (p : Piece) : Prop := ∀ width error, p ≠ .refused width error

theorem Piece.real_held (bytes : Bytes) : (Piece.held bytes).Real := by simp [Real]

theorem Piece.real_zeros (count : Nat) : (Piece.zeros count).Real := by simp [Real]

theorem size_cons (p : Piece) (rest : List Piece) : size (p :: rest) = p.length + size rest := rfl

/-- Every piece is real where the encoder starts at `start`. -/
def Encoder.RealAt (e : Encoder) (start : Nat) (unicode : Bool) : Prop :=
  ∀ p ∈ e.pieces start unicode, p.Real

/-- Every piece is real, wherever the encoder starts. -/
def Encoder.Total (e : Encoder) : Prop := ∀ start unicode, e.RealAt start unicode

namespace Encoder

variable {start : Nat} {unicode : Bool}

@[simp] theorem realAt_empty : (∅ : Encoder).RealAt start unicode :=
  fun _ member => absurd member List.not_mem_nil

@[simp] theorem realAt_piece (bytes : Bytes) : (piece bytes).RealAt start unicode :=
  fun _ member => List.mem_singleton.mp member ▸ Piece.real_held bytes

@[simp] theorem realAt_u8 (w : UInt8) : (u8 w).RealAt start unicode := realAt_piece _
@[simp] theorem realAt_u16 (w : UInt16) : (u16 w).RealAt start unicode := realAt_piece _
@[simp] theorem realAt_u32 (w : UInt32) : (u32 w).RealAt start unicode := realAt_piece _
@[simp] theorem realAt_u64 (w : UInt64) : (u64 w).RealAt start unicode := realAt_piece _

@[simp] theorem total_u16 (w : UInt16) : (u16 w).Total := fun _ _ => realAt_u16 w
@[simp] theorem total_u32 (w : UInt32) : (u32 w).Total := fun _ _ => realAt_u32 w

@[simp] theorem realAt_zeros (count : Nat) : (zeros count).RealAt start unicode :=
  fun _ member => List.mem_singleton.mp member ▸ Piece.real_zeros count

@[simp] theorem realAt_append (a b : Encoder) : (a ++ b).RealAt start unicode ↔
    a.RealAt start unicode ∧ b.RealAt (start + size (a.pieces start unicode)) unicode :=
  List.forall_mem_append

@[simp] theorem realAt_positioned (f : Nat → Bool → Encoder) :
    (positioned f).RealAt start unicode ↔ (f start unicode).RealAt start unicode := Iff.rfl

@[simp] theorem realAt_concat_map {field : α → Encoder} (each : ∀ x, (field x).Total)
    (xs : List α) : (concat (xs.map field)).RealAt start unicode := by
  induction xs generalizing start with
  | nil => exact realAt_empty
  | cons x xs ih => exact (realAt_append _ _).mpr ⟨each x _ _, ih⟩

@[simp] theorem realAt_align (a : Alignment) : (align a).RealAt start unicode := by
  simp only [align, padTo, realAt_positioned]
  split
  · exact realAt_zeros _
  · exact realAt_empty

@[simp] theorem realAt_utf16 (text : String) : (utf16 text).RealAt start unicode := by
  simp [utf16]

@[simp] theorem realAt_oemString (text : String) : (oemString text).RealAt start unicode := by
  simp [oemString]

@[simp] theorem realAt_string (text : String) : (string text).RealAt start unicode := by
  cases unicode <;> simp [string, unicodeString]

@[simp] theorem realAt_stringUnaligned (text : String) :
    (stringUnaligned text).RealAt start unicode := by
  cases unicode <;> simp [stringUnaligned]

end Encoder

namespace Writer

variable {w w' : Writer} {e : Encoder}

theorem append_cons {p : Piece} (real : p.Real) (w : Writer) (rest : List Piece) :
    w.append (p :: rest) =
      if w.capacity < w.position + p.length then
        (w, .error (.precondition (.doesNotFit (w.position + p.length) w.capacity)))
      else append { w with contents := w.contents ++ p.bytes } rest := by
  cases p with
  | refused width error => exact absurd rfl (real width error)
  | held bytes => rfl
  | zeros count => rfl

theorem position_piece (w : Writer) (p : Piece) :
    ({ w with contents := w.contents ++ p.bytes } : Writer).position = w.position + p.length := by
  simp [position]

theorem append_of_fits (w : Writer) (pieces : List Piece) (real : ∀ p ∈ pieces, p.Real)
    (fits : w.position + size pieces ≤ w.capacity) :
    w.append pieces =
      ({ w with contents := w.contents ++ pieces.flatMap Piece.bytes }, .ok ()) := by
  induction pieces generalizing w with
  | nil => simp [append]
  | cons p rest ih =>
    rw [List.forall_mem_cons] at real
    rw [size_cons, ← Nat.add_assoc] at fits
    have first : ¬w.capacity < w.position + p.length := by omega
    have later := ih { w with contents := w.contents ++ p.bytes } real.2
      (by rw [position_piece]; exact fits)
    rw [append_cons real.1, if_neg first, later, List.flatMap_cons, List.append_assoc]

/-- Of pieces that do not all fit, the first that does not is refused. The room it asks for is more
than there is, and no more than all of them take. -/
theorem append_of_short (w : Writer) (pieces : List Piece) (real : ∀ p ∈ pieces, p.Real)
    (inside : w.position ≤ w.capacity) (short : w.capacity < w.position + size pieces) :
    ∃ w' stop, w.append pieces = (w', .error (.precondition (.doesNotFit stop w.capacity))) ∧
      w.capacity < stop ∧ stop ≤ w.position + size pieces := by
  induction pieces generalizing w with
  | nil => exact absurd short (Nat.not_lt.mpr inside)
  | cons p rest ih =>
    rw [List.forall_mem_cons] at real
    rw [size_cons, ← Nat.add_assoc] at short ⊢
    rw [append_cons real.1]
    by_cases first : w.capacity < w.position + p.length
    · exact ⟨w, w.position + p.length, if_pos first, first, by omega⟩
    · obtain ⟨w', stop, refused, beyond, within⟩ := ih { w with contents := w.contents ++ p.bytes }
        real.2 (by rw [position_piece]; exact Nat.not_lt.mp first)
        (by rw [position_piece]; exact short)
      rw [position_piece] at within
      exact ⟨w', stop, by rw [if_neg first, refused], beyond, within⟩

/-- What was written is what the pieces stand for, all of them real, and it lies within the
capacity. -/
theorem append_eq_ok {pieces : List Piece} (h : w.append pieces = (w', .ok ())) :
    w' = { w with contents := w.contents ++ pieces.flatMap Piece.bytes } ∧
      (∀ p ∈ pieces, p.Real) ∧
      (pieces ≠ [] ∨ w.position ≤ w.capacity → w'.position ≤ w.capacity) := by
  induction pieces generalizing w with
  | nil =>
    simp only [append, Prod.mk.injEq, and_true] at h
    subst h
    simp
  | cons p rest ih =>
    have real : p.Real := by
      rintro width error rfl
      simp [append] at h
    rw [append_cons real] at h
    split at h
    · simp at h
    next fits =>
      obtain ⟨same, others, room⟩ := ih h
      refine ⟨by simp [same], List.forall_mem_cons.mpr ⟨real, others⟩, fun _ => ?_⟩
      apply room
      right
      rw [position_piece]
      exact Nat.not_lt.mp fits

theorem put?_of_append {r : Except Error Unit}
    (h : w.append (e.pieces w.position w.unicode) = (w', r)) : w.put? e = r.map fun _ => w' := by
  simp only [put?, put, h]
  cases r <;> rfl

theorem put?_of_fits (real : e.RealAt w.position w.unicode)
    (fits : w.position + (e.bytesAt w.position w.unicode).length ≤ w.capacity) :
    w.put? e = .ok { w with contents := w.contents ++ e.bytesAt w.position w.unicode } :=
  put?_of_append (append_of_fits w _ real (by rw [size_eq_length_flatMap]; exact fits))

theorem put?_of_short (real : e.RealAt w.position w.unicode) (inside : w.position ≤ w.capacity)
    (short : w.capacity < w.position + (e.bytesAt w.position w.unicode).length) :
    ∃ stop, w.put? e = .error (.precondition (.doesNotFit stop w.capacity)) ∧
      w.capacity < stop ∧ stop ≤ w.position + (e.bytesAt w.position w.unicode).length := by
  obtain ⟨w', stop, refused, beyond, within⟩ :=
    append_of_short w _ real inside (by rw [size_eq_length_flatMap]; exact short)
  rw [size_eq_length_flatMap] at within
  exact ⟨stop, put?_of_append refused, beyond, within⟩

theorem append_of_put? (h : w.put? e = .ok w') :
    w.append (e.pieces w.position w.unicode) = (w', .ok ()) := by
  simp only [put?, put] at h
  split at h
  next written =>
    cases h
    exact written
  · cases h

theorem put?_eq_ok (h : w.put? e = .ok w') :
    w' = { w with contents := w.contents ++ e.bytesAt w.position w.unicode } ∧
      (e.pieces w.position w.unicode ≠ [] ∨ w.position ≤ w.capacity →
        w'.position ≤ w.capacity) := by
  obtain ⟨same, -, room⟩ := append_eq_ok (append_of_put? h)
  exact ⟨same, room⟩

theorem realAt_of_put? (h : w.put? e = .ok w') : e.RealAt w.position w.unicode :=
  (append_eq_ok (append_of_put? h)).2.1

section Empty

variable {capacity : Nat} {unicode : Bool}

theorem put?_empty_of_fits (real : e.RealAt 0 unicode)
    (fits : (e.bytesAt 0 unicode).length ≤ capacity) :
    (empty capacity unicode).put? e = .ok ⟨capacity, unicode, e.bytesAt 0 unicode⟩ :=
  put?_of_fits (w := empty capacity unicode) real (Nat.zero_add _ ▸ fits)

theorem put?_empty_of_short (real : e.RealAt 0 unicode)
    (short : capacity < (e.bytesAt 0 unicode).length) :
    ∃ stop, (empty capacity unicode).put? e =
        .error (.precondition (.doesNotFit stop capacity)) ∧
      capacity < stop ∧ stop ≤ (e.bytesAt 0 unicode).length := by
  obtain ⟨stop, refused, beyond, within⟩ := put?_of_short (w := empty capacity unicode) real
    (Nat.zero_le _) (Nat.lt_of_lt_of_le short (Nat.le_add_left _ _))
  exact ⟨stop, refused, beyond, Nat.zero_add (e.bytesAt 0 unicode).length ▸ within⟩

theorem put?_empty_eq_ok (h : (empty capacity unicode).put? e = .ok w) :
    w = ⟨capacity, unicode, e.bytesAt 0 unicode⟩ ∧ (e.bytesAt 0 unicode).length ≤ capacity := by
  obtain ⟨rfl, room⟩ := put?_eq_ok h
  exact ⟨rfl, room (.inr (Nat.zero_le _))⟩

end Empty

end Writer

end Smb1.Wire
