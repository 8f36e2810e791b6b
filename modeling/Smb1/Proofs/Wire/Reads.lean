import Smb1.Wire.Encoder
import Smb1.Wire.Reader

/-! Decoders that take back what encoders wrote. `Reads` speaks of one place in a message and says
nothing about what stands around it, so the steps of a decoder compose like the fields it reads. -/
namespace Smb1.Wire

namespace Encoder

theorem append_eq (a b : Encoder) : a ++ b = append a b := rfl

theorem size_append (a b : List Piece) : size (a ++ b) = size a + size b := by
  simp only [size_eq_length_flatMap, List.flatMap_append, List.length_append]

theorem append_assoc (a b c : Encoder) : a ++ b ++ c = a ++ (b ++ c) := by
  simp only [append_eq, append, size_append, List.append_assoc, Nat.add_assoc]

@[simp] theorem append_empty (a : Encoder) : a ++ (∅ : Encoder) = a := by
  show append a empty = a
  simp [append, empty]

@[simp] theorem empty_append (a : Encoder) : (∅ : Encoder) ++ a = a := by
  show append empty a = a
  simp [append, empty, size]

theorem concat_nil : concat [] = ∅ := rfl

theorem concat_cons (e : Encoder) (es : List Encoder) : concat (e :: es) = e ++ concat es := rfl

@[simp] theorem bytesAt_none (start : Nat) (unicode : Bool) :
    (∅ : Encoder).bytesAt start unicode = [] := rfl

@[simp] theorem bytesAt_positioned (f : Nat → Bool → Encoder) (start : Nat) (unicode : Bool) :
    (positioned f).bytesAt start unicode = (f start unicode).bytesAt start unicode := (rfl)

@[simp] theorem bytesAt_u8 (w : UInt8) (start : Nat) (unicode : Bool) :
    (u8 w).bytesAt start unicode = Word.encode w := bytesAt_piece ..

@[simp] theorem bytesAt_u16 (w : UInt16) (start : Nat) (unicode : Bool) :
    (u16 w).bytesAt start unicode = Word.encode w := bytesAt_piece ..

@[simp] theorem bytesAt_u32 (w : UInt32) (start : Nat) (unicode : Bool) :
    (u32 w).bytesAt start unicode = Word.encode w := bytesAt_piece ..

@[simp] theorem bytesAt_u64 (w : UInt64) (start : Nat) (unicode : Bool) :
    (u64 w).bytesAt start unicode = Word.encode w := bytesAt_piece ..

@[simp] theorem bytesAt_zeros (count start : Nat) (unicode : Bool) :
    (zeros count).bytesAt start unicode = List.replicate count 0 := by
  simp [bytesAt, zeros, ofPiece, Piece.bytes]

@[simp] theorem bytesAt_align (a : Alignment) (start : Nat) (unicode : Bool) :
    (align a).bytesAt start unicode = List.replicate (a.up start - start) 0 := by
  have le := a.le_up start
  simp only [align, padTo, bytesAt_positioned]
  split
  · simp
  · have none : a.up start - start = 0 := by omega
    rw [none]
    rfl

end Encoder

@[simp] theorem size_u8 : Word.size UInt8 = 1 := rfl
@[simp] theorem size_u16 : Word.size UInt16 = 2 := rfl
@[simp] theorem size_u32 : Word.size UInt32 = 4 := rfl
@[simp] theorem size_u64 : Word.size UInt64 = 8 := rfl

theorem encode_u8 (w : UInt8) : (Word.encode w : Bytes) = [w] :=
  congrArg (fun byte => [byte]) UInt8.ofNat_toNat

theorem ok_of_bind {step : Except Error α} {k : α → Except Error β} {b : β}
    (h : (step >>= k) = .ok b) : ∃ a, step = .ok a ∧ k a = .ok b := by
  cases step with
  | error e => cases h
  | ok a => exact ⟨a, rfl, h⟩

/-- Memory holds less than this many bytes, so no position in a message comes near the last there
is. -/
def memoryLimit : Nat := Position.limit / 2

/-- Numbers of bytes can be added. -/
theorem sum_lt_limit {position count : Nat} (inside : position < memoryLimit)
    (few : count < memoryLimit) : position + count < Position.limit := by
  unfold memoryLimit at inside few
  omega

theorem lt_memoryLimit {length : Nat} (small : length ≤ 0xFFFF) : length < memoryLimit :=
  Nat.lt_of_le_of_lt small (by decide)

/-- A step that goes hardly further than what it reads ends at a position. -/
theorem add_lt_limit {before bytes after : Bytes} {start count : Nat} (len : before.length = start)
    (bound : (before ++ bytes ++ after).length < memoryLimit) (near : count ≤ bytes.length + 4) :
    start + count < Position.limit := by
  simp only [List.length_append, memoryLimit, Position.limit, UInt64.size] at bound ⊢
  omega

/-- Bytes picked from where they lie in the message. -/
theorem Reader.slice_inside {r : Reader} {before bytes after : Bytes} {offset count : Nat}
    (buffer : r.buffer = before ++ bytes ++ after) (here : before.length = offset)
    (len : bytes.length = count) (bound : r.buffer.length < memoryLimit) :
    r.slice offset count = .ok bytes := by
  have inside : offset + count ≤ r.length := by
    simp only [Reader.length, buffer, List.length_append]
    omega
  have below : offset + count < Position.limit := by
    have small : r.length < memoryLimit := bound
    simp only [memoryLimit, Position.limit, UInt64.size] at small ⊢
    omega
  have picked : (r.buffer.drop offset).take count = bytes := by
    rw [buffer, List.append_assoc, ← here, List.drop_left, List.take_left' len]
  unfold Reader.slice
  rw [if_neg (Nat.not_le.mpr below), if_neg (Nat.not_lt.mpr inside), picked]

/-- A payload behind its padding. -/
def aligned (a : Alignment) (payload : Bytes) : Encoder := .align a ++ .piece payload

theorem Encoder.bytesAt_aligned (a : Alignment) (payload : Bytes) (start : Nat) (unicode : Bool) :
    (aligned a payload).bytesAt start unicode =
      List.replicate (a.up start - start) 0 ++ payload := by
  simp [aligned]

theorem length_aligned (a : Alignment) (payload : Bytes) (start : Nat) (unicode : Bool) :
    start + ((aligned a payload).bytesAt start unicode).length = a.up start + payload.length := by
  have le := a.le_up start
  simp only [aligned, Encoder.bytesAt_append, Encoder.bytesAt_align, Encoder.bytesAt_piece,
    List.length_append, List.length_replicate]
  omega

theorem slice_aligned (a : Alignment) (payload after : Bytes) {start : Nat} (unicode : Bool)
    {before : Bytes} (position : Nat) (len : before.length = start)
    (bound : (before ++ (aligned a payload).bytesAt start unicode ++ after).length < memoryLimit) :
    Reader.slice ⟨before ++ (aligned a payload).bytesAt start unicode ++ after, position, unicode⟩
      (a.up start) payload.length = .ok payload := by
  have le := a.le_up start
  have split : before ++ (aligned a payload).bytesAt start unicode ++ after =
      (before ++ List.replicate (a.up start - start) 0) ++ payload ++ after := by simp [aligned]
  refine Reader.slice_inside split ?_ rfl bound
  simp only [List.length_append, List.length_replicate]
  omega

namespace Decoder

theorem bind_of_ok {d : Decoder α} {r r' : Reader} {a : α} (k : α → Decoder β)
    (read : d r = .ok (a, r')) : (d >>= k) r = k a r' := by
  change StateT.bind d k r = _
  rw [StateT.bind, read]
  rfl

theorem map_of_ok {d : Decoder α} {r r' : Reader} {a : α} (g : α → β)
    (read : d r = .ok (a, r')) : (g <$> d) r = .ok (g a, r') := by
  change StateT.map g d r = _
  rw [StateT.map, read]
  rfl

theorem repeatOnto_succ (d : Decoder α) (count : Nat) (read : List α) :
    repeatOnto d (count + 1) read = d >>= fun a => repeatOnto d count (a :: read) := by
  funext r
  show _ = StateT.bind _ _ _
  simp only [repeatOnto, StateT.bind]
  cases d r <;> rfl

theorem octets_eq_ok {r : Reader} {count : Nat} (inside : r.position + count ≤ r.length) :
    ∃ same, octets count r = .ok (⟨r.rest.take count, same⟩, r.skip count) :=
  ⟨_, dif_pos inside⟩

theorem take_eq_ok {r : Reader} {count : Nat} (inside : r.position + count ≤ r.length) :
    take count r = .ok (r.rest.take count, r.skip count) := by
  obtain ⟨same, read⟩ := octets_eq_ok inside
  exact map_of_ok Subtype.val read

theorem word_eq_ok {W : Type} [Word W] {r : Reader}
    (inside : r.position + Word.size W ≤ r.length) :
    word W r = .ok (Word.decode r.rest, r.skip (Word.size W)) := by
  rw [word, map_of_ok Word.decode (take_eq_ok inside), Word.decode, List.take_take, Nat.min_self]
  rfl

theorem ahead_eq_ok {r : Reader} {count : Nat} (room : r.position + count < Position.limit) :
    ahead count r = .ok (r.position + count, r) := by
  rw [ahead, Position.add_eq_ok_iff.mpr ⟨rfl, room⟩]
  rfl

theorem skip_eq_ok {r : Reader} {count : Nat} (room : r.position + count < Position.limit) :
    skip count r = .ok ((), r.skip count) := by
  rw [skip, bind_of_ok _ (ahead_eq_ok room)]
  rfl

end Decoder

/-- Where `e` was written at `start`, and ends at `limit` or before, `d` takes all of it and gives
`a`. -/
def Reads (limit start : Nat) (unicode : Bool) (e : Encoder) (d : Decoder α) (a : α) : Prop :=
  ∀ before after : Bytes, before.length = start →
    start + (e.bytesAt start unicode).length ≤ limit →
    (before ++ e.bytesAt start unicode ++ after).length < memoryLimit →
    d ⟨before ++ e.bytesAt start unicode ++ after, start, unicode⟩ =
      .ok (a, ⟨before ++ e.bytesAt start unicode ++ after,
        start + (e.bytesAt start unicode).length, unicode⟩)

namespace Reads

variable {limit start : Nat} {unicode : Bool} {e f : Encoder} {α β : Type} {a : α} {b : β}

theorem congr {d : Decoder α} {a' : α} (h : Reads limit start unicode e d a) (same : a = a') :
    Reads limit start unicode e d a' := same ▸ h

theorem bindAt {d : Decoder α} {k : α → Decoder β} (first : Reads limit start unicode e d a)
    (second : Reads limit (start + (e.bytesAt start unicode).length) unicode f (k a) b) :
    Reads limit start unicode (e ++ f) (d >>= k) b := by
  intro before after len fits bound
  rw [Encoder.bytesAt_append] at fits bound ⊢
  rw [List.length_append] at fits
  have taken := first before (f.bytesAt (start + (e.bytesAt start unicode).length) unicode ++ after)
    len (by omega) (by simpa [List.append_assoc] using bound)
  have rest := second (before ++ e.bytesAt start unicode) after (by simp [len]) (by omega)
    (by simpa [List.append_assoc] using bound)
  simp only [← List.append_assoc] at taken rest ⊢
  rw [Decoder.bind_of_ok k taken, rest, List.length_append, Nat.add_assoc]

theorem bind {d : Decoder α} {k : α → Decoder β} (first : Reads limit start unicode e d a)
    (second : ∀ position, Reads limit position unicode f (k a) b) :
    Reads limit start unicode (e ++ f) (d >>= k) b := bindAt first (second _)

theorem pure : Reads limit start unicode ∅ (Pure.pure a) a := by
  intro before after len _ _
  simp only [Encoder.bytesAt_none, List.length_nil, Nat.add_zero]
  rfl

/-- The last step of a decoder that then only puts its values together. -/
theorem last {d : Decoder α} {k : α → Decoder β} (first : Reads limit start unicode e d a)
    (done : k a = Pure.pure b) : Reads limit start unicode e (d >>= k) b := by
  rw [← Encoder.append_empty e]
  exact bind first fun _ => done ▸ pure

theorem map {d : Decoder α} {g : α → β} (h : Reads limit start unicode e d a) :
    Reads limit start unicode e (g <$> d) (g a) := by
  intro before after len fits bound
  exact Decoder.map_of_ok g (h before after len fits bound)

theorem positioned {g : Nat → Bool → Encoder} {d : Decoder α}
    (h : Reads limit start unicode (g start unicode) d a) :
    Reads limit start unicode (Encoder.positioned g) d a := h

theorem octets {n : Nat} (o : Octets n) :
    Reads limit start unicode (.piece o.val) (Decoder.octets n) o := by
  intro before after len _ bound
  simp only [Encoder.bytesAt_piece] at bound ⊢
  have here : start + n ≤ (before ++ o.val ++ after).length := by
    simp [← len, o.property]
  have there : List.take n (List.drop start (before ++ o.val ++ after)) = o.val := by
    rw [List.append_assoc, ← len, List.drop_left, List.take_left' o.property]
  have inside : start + n ≤ Reader.length ⟨before ++ o.val ++ after, start, unicode⟩ := here
  simp only [Decoder.octets, dif_pos inside, Reader.rest, there, Reader.skip, Reader.seek,
    o.property]

theorem take {bytes : Bytes} {n : Nat} (len : bytes.length = n) :
    Reads limit start unicode (.piece bytes) (Decoder.take n) bytes :=
  map (g := Subtype.val) (octets ⟨bytes, len⟩)

theorem word {W : Type} [Word W] (w : W) :
    Reads limit start unicode (.piece (Word.encode w)) (Decoder.word W) w := by
  have read : Reads limit start unicode (.piece (Word.encode w)) (Decoder.word W)
      (Word.decode (Word.encode w)) := map (g := Word.decode (W := W)) (take (Word.length_encode w))
  exact read.congr (by simpa using Word.decode_encode_append w [])

theorem u8 {w : UInt8} : Reads limit start unicode (.u8 w) Decoder.u8 w := word w
theorem u16 {w : UInt16} : Reads limit start unicode (.u16 w) Decoder.u16 w := word w
theorem u32 {w : UInt32} : Reads limit start unicode (.u32 w) Decoder.u32 w := word w
theorem u64 {w : UInt64} : Reads limit start unicode (.u64 w) Decoder.u64 w := word w

theorem ahead {n : Nat} {k : Nat → Decoder α} (all : n = (e.bytesAt start unicode).length)
    (h : Reads (start + n) start unicode e (k (start + n)) a) :
    Reads limit start unicode e (Decoder.ahead n >>= k) a := by
  intro before after len fits bound
  have room : start + n < Position.limit := add_lt_limit len bound (by omega)
  rw [Decoder.bind_of_ok k (Decoder.ahead_eq_ok room)]
  exact h before after len (by omega) bound

theorem skip {n : Nat} (len : (e.bytesAt start unicode).length = n) :
    Reads limit start unicode e (Decoder.skip n) () := by
  intro before after before_len fits bound
  have room : start + n < Position.limit := add_lt_limit before_len bound (by omega)
  rw [Decoder.skip, Decoder.bind_of_ok _ (Decoder.ahead_eq_ok room), len]
  rfl

theorem align (boundary : Alignment) (small : boundary.value ≤ 4) :
    Reads limit start unicode (.align boundary) (Decoder.align boundary) () := by
  intro before after len fits bound
  have le := boundary.le_up start
  have room : start + boundary.value < Position.limit := add_lt_limit len bound (by omega)
  simp only [Decoder.align, Position.align_eq_up boundary room, Encoder.bytesAt_align,
    List.length_replicate]
  have stop : start + (boundary.up start - start) = boundary.up start := by omega
  rw [stop]
  rfl

/-- A step that looks at the cursor and goes on while room is left. -/
theorem room {d other : Decoder α} (some : 0 < (e.bytesAt start unicode).length)
    (h : Reads limit start unicode e d a) :
    Reads limit start unicode e
      (Decoder.position >>= fun position => if position < limit then d else other) a := by
  intro before after len fits bound
  show (if start < limit then d else other) _ = _
  rw [if_pos (by omega)]
  exact h before after len fits bound

theorem full {d other : Decoder α} (stop : limit = start)
    (h : Reads limit start unicode e other a) :
    Reads limit start unicode e
      (Decoder.position >>= fun position => if position < limit then d else other) a := by
  intro before after len fits bound
  show (if start < limit then d else other) _ = _
  rw [if_neg (by omega)]
  exact h before after len fits bound

theorem repeatOnto {d : Decoder α} {encode : α → Encoder} (xs read : List α)
    (each : ∀ position, ∀ x ∈ xs, Reads limit position unicode (encode x) d x) :
    Reads limit start unicode (.concat (xs.map encode)) (Decoder.repeatOnto d xs.length read)
      (xs.reverse ++ read) := by
  induction xs generalizing start read with
  | nil => exact pure
  | cons x xs ih =>
    have steps := bind (k := fun x => Decoder.repeatOnto d xs.length (x :: read))
      (each start x (.head _)) fun _ =>
        ih (x :: read) fun position y among => each position y (.tail _ among)
    have value : xs.reverse ++ x :: read = (x :: xs).reverse ++ read := by simp
    rw [List.map_cons, Encoder.concat_cons, ← value]
    rw [List.length_cons, Decoder.repeatOnto_succ]
    exact steps

theorem times {d : Decoder α} {encode : α → Encoder} {xs : List α} {n : Nat}
    (len : xs.length = n)
    (each : ∀ position, ∀ x ∈ xs, Reads limit position unicode (encode x) d x) :
    Reads limit start unicode (.concat (xs.map encode)) (Decoder.times n d) xs := by
  subst len
  have read : Reads limit start unicode (.concat (xs.map encode)) (Decoder.times xs.length d)
      (xs.reverse ++ []).reverse := map (g := List.reverse) (repeatOnto xs [] each)
  exact read.congr (by simp)

end Reads

/-- The same for a decoder that may leave the cursor anywhere, as one that follows offsets does. -/
def Yields (start : Nat) (unicode : Bool) (e : Encoder) (d : Decoder α) (a : α) : Prop :=
  ∀ before after : Bytes, before.length = start →
    (before ++ e.bytesAt start unicode ++ after).length < memoryLimit →
    ∃ position, d ⟨before ++ e.bytesAt start unicode ++ after, start, unicode⟩ =
      .ok (a, ⟨before ++ e.bytesAt start unicode ++ after, position, unicode⟩)

theorem Reads.yields {start : Nat} {unicode : Bool} {e : Encoder} {d : Decoder α} {a : α}
    (h : Reads (start + (e.bytesAt start unicode).length) start unicode e d a) :
    Yields start unicode e d a :=
  fun before after len bound => ⟨_, h before after len (Nat.le_refl _) bound⟩

/-- What stands behind the bytes that are read may belong to the same field. -/
theorem Reads.yields_append {start : Nat} {unicode : Bool} {e f : Encoder} {d : Decoder α} {a : α}
    (h : Reads (start + (e.bytesAt start unicode).length) start unicode e d a) :
    Yields start unicode (e ++ f) d a := by
  intro before after len bound
  rw [Encoder.bytesAt_append] at bound ⊢
  have taken := h before (f.bytesAt (start + (e.bytesAt start unicode).length) unicode ++ after)
    len (Nat.le_refl _) (by simpa [List.append_assoc] using bound)
  simp only [← List.append_assoc] at taken ⊢
  exact ⟨_, taken⟩

theorem Yields.bind {start : Nat} {unicode : Bool} {e f : Encoder} {d : Decoder α}
    {k : α → Decoder β} {a : α} {b : β}
    (first : Reads (start + ((e ++ f).bytesAt start unicode).length) start unicode e d a)
    (second : Yields (start + (e.bytesAt start unicode).length) unicode f (k a) b) :
    Yields start unicode (e ++ f) (d >>= k) b := by
  intro before after len bound
  rw [Encoder.bytesAt_append] at bound ⊢
  have taken := first before (f.bytesAt (start + (e.bytesAt start unicode).length) unicode ++ after)
    len (by rw [Encoder.bytesAt_append, List.length_append]; omega)
    (by simpa [List.append_assoc] using bound)
  obtain ⟨position, rest⟩ := second (before ++ e.bytesAt start unicode) after (by simp [len])
    (by simpa [List.append_assoc] using bound)
  simp only [← List.append_assoc] at taken rest ⊢
  refine ⟨position, ?_⟩
  rw [Decoder.bind_of_ok k taken]
  exact rest

theorem Yields.ahead {start n : Nat} {unicode : Bool} {e : Encoder} {k : Nat → Decoder α} {a : α}
    (all : n = (e.bytesAt start unicode).length) (h : Yields start unicode e (k (start + n)) a) :
    Yields start unicode e (Decoder.ahead n >>= k) a := by
  intro before after len bound
  have room : start + n < Position.limit := add_lt_limit len bound (by omega)
  rw [Decoder.bind_of_ok k (Decoder.ahead_eq_ok room)]
  exact h before after len bound

theorem Yields.congr {start : Nat} {unicode : Bool} {e : Encoder} {d : Decoder α} {a a' : α}
    (h : Yields start unicode e d a) (same : a = a') : Yields start unicode e d a' := same ▸ h

/-- The same for a step that turns one state into another, as reading into a template does. -/
def Fills (start : Nat) (unicode : Bool) (e : Encoder) (step : Reader → α × Except Error Reader)
    (a : α) : Prop :=
  ∀ before after : Bytes, before.length = start →
    (before ++ e.bytesAt start unicode ++ after).length < memoryLimit →
    ∃ position, step ⟨before ++ e.bytesAt start unicode ++ after, start, unicode⟩ =
      (a, .ok ⟨before ++ e.bytesAt start unicode ++ after, position, unicode⟩)

theorem Fills.map {start : Nat} {unicode : Bool} {e : Encoder}
    {step : Reader → α × Except Error Reader} {a : α} (wrap : α → β)
    (h : Fills start unicode e step a) :
    Fills start unicode e (fun reader => (wrap (step reader).1, (step reader).2)) (wrap a) := by
  intro before after len bound
  obtain ⟨position, filled⟩ := h before after len bound
  exact ⟨position, by simp only [filled]⟩

end Smb1.Wire
