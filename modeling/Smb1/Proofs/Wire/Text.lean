import Smb1.Proofs.Wire.Scan
import Smb1.Proofs.Wire.Writing

/-! Texts on the wire. A text without a null character comes back from either encoding, if a
single-byte encoding has a byte for each of its characters. -/
namespace Smb1

namespace Text

/-- What a null-terminated string can show. -/
structure Terminable (unicode : Bool) (text : String) : Prop where
  noNull : ∀ c ∈ text.toList, c.toNat ≠ 0
  singleByte : unicode = false → ∀ c ∈ text.toList, c.toNat < 0x100

instance (unicode : Bool) (text : String) : Decidable (Terminable unicode text) :=
  decidable_of_iff ((text.toList.all fun c => c.toNat != 0) = true ∧
      (unicode = false → (text.toList.all fun c => decide (c.toNat < 0x100)) = true))
    ⟨fun h => ⟨by simpa using h.1, by simpa using h.2⟩,
      fun h => ⟨by simpa using h.noNull, by simpa using h.singleByte⟩⟩

namespace Utf16

theorem toNat_isSurrogate_iff (unit : UInt16) :
    (isHigh unit = true ↔ 0xD800 ≤ unit.toNat ∧ unit.toNat < 0xDC00) ∧
    (isLow unit = true ↔ 0xDC00 ≤ unit.toNat ∧ unit.toNat < 0xE000) := by
  simp [isHigh, isLow, UInt16.le_iff_toNat_le, UInt16.lt_iff_toNat_lt]

theorem isHigh_eq_false {unit : UInt16} (h : unit.toNat < 0xD800 ∨ 0xDC00 ≤ unit.toNat) :
    isHigh unit = false := by
  have := (toNat_isSurrogate_iff unit).1
  cases high : isHigh unit
  · rfl
  · have := this.mp high
    omega

theorem isLow_eq_false {unit : UInt16} (h : unit.toNat < 0xDC00 ∨ 0xE000 ≤ unit.toNat) :
    isLow unit = false := by
  have := (toNat_isSurrogate_iff unit).2
  cases low : isLow unit
  · rfl
  · have := this.mp low
    omega

theorem toNat_valid (c : Char) : c.toNat < 0xD800 ∨ 0xDFFF < c.toNat ∧ c.toNat < 0x110000 :=
  c.valid

/-- Each character comes back from its own units, whatever follows. -/
theorem chars?_charUnits (c : Char) (rest : List UInt16) :
    chars? (charUnits c ++ rest) = (chars? rest).map (c :: ·) := by
  have valid := toNat_valid c
  unfold charUnits
  split
  next basic =>
    have value := UInt16.toNat_ofNat_of_lt' basic
    have notHigh : isHigh (UInt16.ofNat c.toNat) = false := isHigh_eq_false (by omega)
    have notLow : isLow (UInt16.ofNat c.toNat) = false := isLow_eq_false (by omega)
    rw [List.singleton_append, chars?.eq_def]
    simp only [notHigh, notLow, value, Char.ofNat_toNat, Bool.false_eq_true, if_false]
  next beyond =>
    have high : (UInt16.ofNat (0xD800 + (c.toNat - 0x10000) / 0x400)).toNat =
      0xD800 + (c.toNat - 0x10000) / 0x400 :=
        UInt16.toNat_ofNat_of_lt' (show _ < 0x10000 by omega)
    have low : (UInt16.ofNat (0xDC00 + (c.toNat - 0x10000) % 0x400)).toNat =
      0xDC00 + (c.toNat - 0x10000) % 0x400 :=
        UInt16.toNat_ofNat_of_lt' (show _ < 0x10000 by omega)
    have isHigh := (toNat_isSurrogate_iff _).1.mpr (by rw [high]; omega)
    have isLow := (toNat_isSurrogate_iff _).2.mpr (by rw [low]; omega)
    have back : 0x10000 + (0xD800 + (c.toNat - 0x10000) / 0x400 - 0xD800) * 0x400 +
        (0xDC00 + (c.toNat - 0x10000) % 0x400 - 0xDC00) = c.toNat := by omega
    simp only [List.cons_append, List.nil_append, chars?, isHigh, isLow, if_true, pair, high, low,
      back, Char.ofNat_toNat]

theorem decode_units (text : String) : decode (units text) = .ok text := by
  have all : ∀ cs : List Char, chars? (cs.flatMap charUnits) = some cs := by
    intro cs
    induction cs with
    | nil => rfl
    | cons c cs ih => rw [List.flatMap_cons, chars?_charUnits, ih]; rfl
  simp [decode, units, all]

theorem units_ne_zero {text : String} (h : ∀ c ∈ text.toList, c.toNat ≠ 0) :
    ∀ unit ∈ units text, unit ≠ 0 := by
  intro unit member zero
  obtain ⟨c, inText, ofChar⟩ := List.mem_flatMap.mp member
  have nonzero := h c inText
  have valid := toNat_valid c
  unfold charUnits at ofChar
  split at ofChar
  next basic =>
    have value := congrArg UInt16.toNat (List.mem_singleton.mp ofChar)
    rw [UInt16.toNat_ofNat_of_lt' basic, zero] at value
    exact nonzero value.symm
  next beyond =>
    simp only [List.mem_cons, List.not_mem_nil, or_false, zero] at ofChar
    rcases ofChar with high | low
    · have value := congrArg UInt16.toNat high
      rw [UInt16.toNat_ofNat_of_lt' (show _ < 0x10000 by omega), UInt16.toNat_zero] at value
      omega
    · have value := congrArg UInt16.toNat low
      rw [UInt16.toNat_ofNat_of_lt' (show _ < 0x10000 by omega), UInt16.toNat_zero] at value
      omega

/-- A unit is two bytes, and they are the unit. -/
theorem exists_bytes (unit : UInt16) :
    ∃ low high, (Word.encode unit : Bytes) = [low, high] ∧ Word.decode [low, high] = unit := by
  refine ⟨UInt8.ofNat unit.toNat, UInt8.ofNat (unit.toNat / 256), rfl, ?_⟩
  exact Word.decode_encode_append unit []

theorem unitsOf_encode (text : String) : unitsOf (encode text) = units text := by
  unfold encode
  induction units text with
  | nil => rfl
  | cons unit rest ih =>
    obtain ⟨low, high, pair, value⟩ := exists_bytes unit
    simp only [List.flatMap_cons, pair, List.cons_append, List.nil_append, unitsOf, value, ih]

theorem length_encode (text : String) : (encode text).length = 2 * (units text).length := by
  simp only [encode]
  induction units text with
  | nil => rfl
  | cons unit rest ih => simp [ih]; omega

end Utf16

namespace Latin1

theorem decode_encode {text : String} (h : ∀ c ∈ text.toList, c.toNat < 0x100) :
    decode (encode text) = text := by
  have back : ∀ c ∈ text.toList, Char.ofNat (charByte c).toNat = c := by
    intro c member
    have small := h c member
    simp [charByte, small, UInt8.toNat_ofNat', Nat.mod_eq_of_lt small]
  rw [decode, encode, List.map_map]
  have same : text.toList.map ((fun b : UInt8 => Char.ofNat b.toNat) ∘ charByte) = text.toList := by
    refine (List.map_congr_left back).trans ?_
    simp
  rw [same, String.ofList_toList]

theorem encode_ne_zero {text : String} (noNull : ∀ c ∈ text.toList, c.toNat ≠ 0) :
    ∀ b ∈ encode text, b ≠ 0 := by
  intro b member zero
  obtain ⟨c, inText, value⟩ := List.mem_map.mp member
  have nonzero := noNull c inText
  rw [zero] at value
  unfold charByte at value
  split at value
  next small =>
    have := congrArg UInt8.toNat value
    rw [UInt8.toNat_ofNat', Nat.mod_eq_of_lt (by omega)] at this
    exact nonzero this
  next => exact absurd value (by decide)

end Latin1

end Text

namespace Wire

open Text

/-- A null unit ends the scan, whatever stands behind it. -/
theorem scanUnits_terminated (units : List UInt16) (nonzero : ∀ unit ∈ units, unit ≠ 0) (room : Nat)
    (after : Bytes) (fits : 2 * units.length + 2 ≤ room) :
    scanUnits room (units.flatMap Word.encode ++ Word.encode (0 : UInt16) ++ after) =
      (units, 2 * units.length + 2) := by
  induction units generalizing room with
  | nil =>
    obtain ⟨room, rfl⟩ : ∃ n, room = n + 2 := ⟨room - 2, by simp at fits; omega⟩
    rfl
  | cons unit units ih =>
    obtain ⟨room, rfl⟩ : ∃ n, room = n + 2 := ⟨room - 2, by simp at fits; omega⟩
    have rest := ih (fun u h => nonzero u (List.mem_cons_of_mem _ h)) room
      (by simp at fits; omega)
    obtain ⟨low, high, pair, value⟩ := Utf16.exists_bytes unit
    rw [List.flatMap_cons, pair]
    simp only [List.cons_append, List.nil_append, scanUnits, value,
      if_neg (nonzero unit List.mem_cons_self), rest, List.length_cons]
    rw [show 2 * units.length + 2 + 2 = 2 * (units.length + 1) + 2 by omega]

/-- A null byte ends the scan, whatever stands behind it. -/
theorem scanBytes_terminated (bytes : Bytes) (nonzero : ∀ b ∈ bytes, b ≠ 0) (room : Nat)
    (after : Bytes) (fits : bytes.length + 1 ≤ room) :
    scanBytes room (bytes ++ 0 :: after) = (bytes, bytes.length + 1) := by
  induction bytes generalizing room with
  | nil =>
    obtain ⟨room, rfl⟩ : ∃ n, room = n + 1 := ⟨room - 1, by simp at fits; omega⟩
    rfl
  | cons b bytes ih =>
    obtain ⟨room, rfl⟩ : ∃ n, room = n + 1 := ⟨room - 1, by simp at fits; omega⟩
    have rest := ih (fun c h => nonzero c (List.mem_cons_of_mem _ h)) room (by simp at fits; omega)
    simp only [List.cons_append, scanBytes, if_neg (nonzero b List.mem_cons_self), rest,
      List.length_cons]

namespace Encoder

@[simp] theorem bytesAt_utf16 (text : String) (start : Nat) (unicode : Bool) :
    (utf16 text).bytesAt start unicode =
      (Utf16.units text).flatMap Word.encode ++ Word.encode (0 : UInt16) := by
  simp [utf16, Utf16.encode]

@[simp] theorem bytesAt_oemString (text : String) (start : Nat) (unicode : Bool) :
    (oemString text).bytesAt start unicode = Latin1.encode text ++ [0] := by
  simp [oemString]
  rfl

/-- The prediction of a string's length is right, padding included. -/
theorem length_bytesAt_string (text : String) (start : Nat) (unicode : Bool) :
    ((string text).bytesAt start unicode).length = stringLength text start unicode := by
  cases unicode
  · simp [string, stringLength]
  · have units := Utf16.length_encode text
    rw [Utf16.encode] at units
    simp [string, stringLength, unicodeString, units]
    omega

theorem length_bytesAt_string_pos (text : String) (start : Nat) (unicode : Bool) :
    0 < ((string text).bytesAt start unicode).length := by
  rw [length_bytesAt_string]
  unfold stringLength
  split <;> omega

end Encoder

theorem Decoder.align_eq_ok {r : Reader} {a : Alignment}
    (room : r.position + a.value < Position.limit) :
    align a r = .ok ((), r.seek (a.up r.position)) := by
  rw [align, Position.align_eq_up a room]
  rfl

/-! Strings are read from wherever they were written, as long as their end is a position. -/
section Written

variable {text : String} {before after bytes : Bytes} {limit : Nat} {unicode : Bool}

theorem rawUnits_written (nonzero : ∀ unit ∈ Utf16.units text, unit ≠ 0)
    (written : bytes = Utf16.encode text ++ Word.encode (0 : UInt16))
    (fits : before.length + bytes.length ≤ limit) (room : before.length + 2 < Position.limit) :
    Decoder.rawUnits limit ⟨before ++ bytes ++ after, before.length, unicode⟩ =
      .ok (Utf16.units text,
        ⟨before ++ bytes ++ after, before.length + bytes.length, unicode⟩) := by
  subst written
  have size : (Utf16.encode text ++ Word.encode (0 : UInt16)).length =
      2 * (Utf16.units text).length + 2 := by
    simp [Utf16.length_encode]
  have scan := scanUnits_terminated (Utf16.units text) nonzero (limit - before.length) after
    (by omega)
  rw [← Utf16.encode] at scan
  simp only [Decoder.rawUnits_eq, Position.add_eq_ok_iff.mpr ⟨rfl, room⟩, Reader.rest,
    List.append_assoc, List.drop_left, size] at scan ⊢
  rw [scan]
  rfl

theorem unicodeString_written (noNull : ∀ c ∈ text.toList, c.toNat ≠ 0)
    (written : bytes = Utf16.encode text ++ Word.encode (0 : UInt16))
    (fits : before.length + bytes.length ≤ limit) (room : before.length + 2 < Position.limit) :
    Decoder.unicodeString limit ⟨before ++ bytes ++ after, before.length, unicode⟩ =
      .ok (text, ⟨before ++ bytes ++ after, before.length + bytes.length, unicode⟩) := by
  have units : Decoder.rawUnits limit ⟨before ++ bytes ++ after, before.length, unicode⟩ = _ :=
    rawUnits_written (Utf16.units_ne_zero noNull) written fits room
  rw [Decoder.unicodeString, Decoder.bind_of_ok _ units, Utf16.decode_units]
  rfl

theorem oemString_written (shown : Terminable false text)
    (written : bytes = Latin1.encode text ++ [0])
    (fits : before.length + bytes.length ≤ limit) :
    Decoder.oemString limit ⟨before ++ bytes ++ after, before.length, unicode⟩ =
      .ok (text, ⟨before ++ bytes ++ after, before.length + bytes.length, unicode⟩) := by
  subst written
  have size : (Latin1.encode text ++ [0]).length = (Latin1.encode text).length + 1 := by simp
  have scan := scanBytes_terminated (Latin1.encode text) (Latin1.encode_ne_zero shown.noNull)
    (limit - before.length) after (by omega)
  simp only [Decoder.oemString_eq, Reader.rest, List.append_assoc, List.drop_left,
    List.singleton_append, scan, size, Latin1.decode_encode (shown.singleByte rfl)]
  rfl

/-- Padding stands in front of the string, so its units start on the boundary. -/
theorem alignedString_written (noNull : ∀ c ∈ text.toList, c.toNat ≠ 0)
    (written : bytes = List.replicate (Alignment.two.up before.length - before.length) 0 ++
      (Utf16.encode text ++ Word.encode (0 : UInt16)))
    (fits : before.length + bytes.length ≤ limit)
    (position : before.length + bytes.length < Position.limit) :
    Decoder.alignedString limit ⟨before ++ bytes ++ after, before.length, unicode⟩ =
      .ok (text, ⟨before ++ bytes ++ after, before.length + bytes.length, unicode⟩) := by
  generalize padding :
    List.replicate (Alignment.two.up before.length - before.length) (0 : UInt8) = pad at written
  generalize behind : Utf16.encode text ++ Word.encode (0 : UInt16) = units at written
  have two : 2 ≤ units.length := by simp [← behind]
  have le := Alignment.two.le_up before.length
  have start : (before ++ pad).length = Alignment.two.up before.length := by
    rw [← padding, List.length_append, List.length_replicate]
    omega
  have stop : (before ++ pad).length + units.length = before.length + bytes.length := by
    rw [written, List.length_append, List.length_append, Nat.add_assoc]
  have whole : before ++ bytes ++ after = (before ++ pad) ++ units ++ after := by
    rw [written, ← List.append_assoc before]
  have aligned : Decoder.align .two ⟨before ++ bytes ++ after, before.length, unicode⟩ =
      .ok ((), ⟨before ++ bytes ++ after, (before ++ pad).length, unicode⟩) := by
    rw [Decoder.align_eq_ok (show before.length + 2 < Position.limit by omega), start]
    rfl
  have read : Decoder.unicodeString limit
      ⟨(before ++ pad) ++ units ++ after, (before ++ pad).length, unicode⟩ = _ :=
    unicodeString_written noNull behind.symm (by omega) (by omega)
  rw [Decoder.alignedString, Decoder.bind_of_ok _ aligned, whole, read, stop]

theorem string_written (shown : Terminable unicode text)
    (written : bytes = (Encoder.string text).bytesAt before.length unicode)
    (fits : before.length + bytes.length ≤ limit)
    (position : before.length + bytes.length < Position.limit) :
    Decoder.string limit ⟨before ++ bytes ++ after, before.length, unicode⟩ =
      .ok (text, ⟨before ++ bytes ++ after, before.length + bytes.length, unicode⟩) := by
  cases unicode with
  | false =>
    apply oemString_written shown _ fits
    simpa [Encoder.string] using written
  | true =>
    apply alignedString_written shown.noNull _ fits position
    simpa [Encoder.string, Encoder.unicodeString, Utf16.encode] using written

end Written

namespace Reads

variable {limit start : Nat} {unicode : Bool} {text : String}

theorem rawUnits (nonzero : ∀ unit ∈ Utf16.units text, unit ≠ 0) :
    Reads limit start unicode (.utf16 text) (Decoder.rawUnits limit) (Utf16.units text) := by
  intro before after len fits bound
  subst len
  have written := Encoder.bytesAt_utf16 text before.length unicode
  exact rawUnits_written nonzero written fits (add_lt_limit rfl bound (by simp [written]))

theorem utf16 (h : Terminable unicode text) :
    Reads limit start unicode (.utf16 text) (Decoder.unicodeString limit) text :=
  last (rawUnits (Utf16.units_ne_zero h.noNull)) (by rw [Utf16.decode_units])

theorem oemString (h : Terminable false text) :
    Reads limit start unicode (.oemString text) (Decoder.oemString limit) text := by
  intro before after len fits bound
  subst len
  exact oemString_written h (Encoder.bytesAt_oemString ..) fits

theorem stringUnaligned (h : Terminable unicode text) :
    Reads limit start unicode (.stringUnaligned text) (Decoder.stringUnaligned limit) text := by
  cases unicode with
  | false => exact oemString h
  | true => exact utf16 h

theorem string (h : Terminable unicode text) :
    Reads limit start unicode (.string text) (Decoder.string limit) text := by
  intro before after len fits bound
  subst len
  exact string_written h rfl fits (add_lt_limit rfl bound (Nat.le_add_right _ _))

theorem stringOrEmpty (h : Terminable unicode text) :
    Reads limit start unicode (.string text) (Decoder.stringOrEmpty limit) text := by
  cases unicode with
  | false => exact oemString h
  | true =>
    have units : Reads limit start true (.string text) (Decoder.alignedUnits limit)
        (Utf16.units text) :=
      bind (align .two (by decide)) fun _ => rawUnits (Utf16.units_ne_zero h.noNull)
    intro before after len fits bound
    show (Decoder.alignedUnits limit _ >>= _) = _
    rw [units before after len fits bound]
    simp only [Bind.bind, Except.bind, Utf16.decode_units]

end Reads

theorem stringLength?_eq_ok (text : String) {position : Nat} (unicode : Bool)
    (inside : position + stringLength text position unicode < Position.limit) :
    stringLength? text position unicode = .ok (stringLength text position unicode) := by
  cases unicode with
  | false => rfl
  | true =>
    have two : 2 ≤ stringLength text position true := by simp [stringLength]; omega
    have room : position + Alignment.two.value < Position.limit :=
      show position + 2 < Position.limit by omega
    simp only [stringLength?, Position.align_eq_up _ room, if_true]
    rfl

/-- A string takes as many bytes as predicted, wherever it is put. Whatever stands behind it, it is
read back from where it was put, and the cursor is then behind it; only a null character, or one
that a single-byte encoding does not have, is lost. -/
theorem Writer.string_put_read (w : Writer) (text : String)
    (representable : w.capacity < Position.limit)
    (room : w.position + stringLength text w.position w.unicode ≤ w.capacity) :
    ∃ written : Bytes,
      w.put? (.string text) = .ok { w with contents := w.contents ++ written } ∧
      stringLength? text w.position w.unicode = .ok written.length ∧
      (Terminable w.unicode text → ∀ (after : Bytes) (limit : Nat),
        w.position + written.length ≤ limit →
        Decoder.string limit ⟨w.contents ++ written ++ after, w.position, w.unicode⟩ =
          .ok (text, ⟨w.contents ++ written ++ after, w.position + written.length, w.unicode⟩)) := by
  have length := Encoder.length_bytesAt_string text w.position w.unicode
  have inside := Nat.lt_of_le_of_lt room representable
  refine ⟨(Encoder.string text).bytesAt w.position w.unicode, ?_, ?_, ?_⟩
  · apply put?_of_fits
    · exact Encoder.realAt_string text
    · rw [length]
      exact room
  · rw [length]
    exact stringLength?_eq_ok text w.unicode inside
  · intro shown after limit fits
    rw [← length] at inside
    exact string_written shown rfl fits inside

/-- Behind an odd number of bytes and in front of others, with a character outside the basic plane:
one byte of padding, two halves of a pair, a third unit and the terminator. -/
theorem Writer.string_put_read_pair :
    let w : Writer := ⟨64, true, [0xAA]⟩
    64 < Position.limit ∧ Terminable true "𝄞é" ∧ ∃ written : Bytes,
      written.length = 9 ∧ w.put? (.string "𝄞é") = .ok ⟨64, true, [0xAA] ++ written⟩ ∧
      Decoder.string 10 ⟨[0xAA] ++ written ++ [0x41, 0], 1, true⟩ =
        .ok ("𝄞é", ⟨[0xAA] ++ written ++ [0x41, 0], 10, true⟩) := by
  have shown : Terminable true "𝄞é" := by decide
  have predicted : stringLength? "𝄞é" 1 true = .ok 9 := rfl
  obtain ⟨written, put, length, read⟩ :=
    string_put_read ⟨64, true, [0xAA]⟩ "𝄞é" (by decide) (by decide)
  have nine : written.length = 9 := (Except.ok.inj (predicted.symm.trans length)).symm
  have back := read shown [0x41, 0] 10 (by rw [nine]; decide)
  rw [nine] at back
  exact ⟨by decide, shown, written, nine, put, back⟩

end Wire

end Smb1
