import Mathlib.Tactic.SplitIfs
import Smb1.Proofs.Wire.Reads
import Smb1.Transport.Netbios

/-! A frame that is received in two parts is the frame that is received whole, cut where the data
of a read response begins. -/
namespace Smb1.Netbios

open Wire

variable {count more : Nat} {input rest head : Bytes}

theorem readExact_eq_ok (enough : count ≤ input.length) :
    readExact count input = (.ok (input.take count), input.drop count) := by
  rw [readExact, List.length_take_of_le enough]
  exact if_neg (Nat.lt_irrefl count)

theorem readExact_eq_error (short : input.length < count) :
    readExact count input = (.error (.io .endOfStream), []) := by
  rw [readExact, List.take_of_length_le (Nat.le_of_lt short)]
  exact if_pos short

theorem length_of_readExact {bytes : Bytes} (read : readExact count input = (.ok bytes, rest)) :
    bytes.length = count := by
  by_cases enough : count ≤ input.length
  · rw [readExact_eq_ok enough] at read
    cases read
    exact List.length_take_of_le enough
  · rw [readExact_eq_error (Nat.not_le.mp enough)] at read
    cases read

/-- What the fixed part of a successful read response says about its data. -/
structure Announces (head : Bytes) (offset count : Nat) : Prop where
  long : ReadResponse.headLength ≤ head.length
  words : head[Header.length]? = some ReadResponse.wordCount
  starts : offset = (Word.decode (head.drop ReadResponse.dataOffsetOffset) : UInt16).toNat
  counts : count = (Word.decode (head.drop ReadResponse.dataLengthOffset) : UInt16).toNat +
    (Word.decode (head.drop ReadResponse.dataLengthHighOffset) : UInt16).toNat * 0x10000

theorem Announces.lt_limit {offset count : Nat} (said : Announces head offset count) :
    offset + count < Position.limit := by
  have := (Word.decode (head.drop ReadResponse.dataOffsetOffset) : UInt16).toNat_lt
  have := (Word.decode (head.drop ReadResponse.dataLengthOffset) : UInt16).toNat_lt
  have := (Word.decode (head.drop ReadResponse.dataLengthHighOffset) : UInt16).toNat_lt
  rw [said.starts, said.counts]
  unfold Position.limit UInt64.size
  omega

theorem readPayload_eq_ok (head : Bytes) : ∃ found, readPayload head = .ok found ∧
    ∀ offset count, found = some (offset, count) → Announces head offset count := by
  by_cases short : head.length < ReadResponse.headLength
  · exact ⟨none, if_pos short, nofun⟩
  have long : 59 ≤ head.length := Nat.not_lt.mp short
  have byte (index : Nat) (inside : index < 59) : Buffer.byteAt head index = .ok head[index] :=
    Buffer.byteAt_eq_ok (by omega)
  have word (index : Nat) (inside : index + 2 ≤ 59) :
      Buffer.wordAt UInt16 head index = .ok (Word.decode (head.drop index)) :=
    Buffer.wordAt_eq_ok (by rw [size_u16]; omega)
  have status : Buffer.between head 5 9 = .ok ((head.drop 5).take 4) :=
    Buffer.between_eq_ok (by decide) (by omega)
  simp only [readPayload, if_neg short, byte 4 (by decide), status,
    byte Header.length (by decide), word ReadResponse.dataLengthOffset (by decide),
    word ReadResponse.dataLengthHighOffset (by decide),
    word ReadResponse.dataOffsetOffset (by decide), bind, Except.bind, pure, Except.pure]
  split_ifs with code success words
  · exact ⟨none, rfl, nofun⟩
  · exact ⟨none, rfl, nofun⟩
  · exact ⟨none, rfl, nofun⟩
  · refine ⟨_, rfl, fun offset count same => ?_⟩
    cases same
    have there : Header.length < head.length := by unfold Header.length; omega
    exact ⟨long, by rw [List.getElem?_eq_getElem there, Decidable.of_not_not words], rfl, rfl⟩

/-- The data ends the message behind `head`, and there is room for it. -/
structure Fits (head : Bytes) (length room offset count : Nat) : Prop extends
    Announces head offset count where
  behind : head.length ≤ offset
  ends : offset + count = length
  small : count ≤ room

theorem splitAt_eq_ok (head : Bytes) (length room : Nat) : ∃ found,
    splitAt head length room = .ok found ∧
      ∀ offset count, found = some (offset, count) → Fits head length room offset count := by
  obtain ⟨found, read, announced⟩ := readPayload_eq_ok head
  match found with
  | none => exact ⟨none, by rw [splitAt, read]; rfl, nofun⟩
  | some (offset, count) =>
    have said := announced offset count rfl
    have stop : Position.add offset count = .ok (offset + count) :=
      Position.add_eq_ok_iff.mpr ⟨rfl, said.lt_limit⟩
    simp only [splitAt, read, stop, bind, Except.bind, pure, Except.pure]
    refine ⟨_, rfl, fun offset' count' same => ?_⟩
    split at same
    next fits =>
      cases same
      exact ⟨said, fits.1, fits.2.1, fits.2.2⟩
    · cases same

/-- A frame whose data is cut off and put into a buffer. -/
def cutAt (frame buffer : Bytes) : Option (Nat × Nat) → SplitFrame
  | some (offset, count) =>
    ⟨frame.take offset, some count, frame.drop offset ++ buffer.drop count⟩
  | none => ⟨frame, none, buffer⟩

/-- A frame with the data cut off that can be delivered apart. -/
def split (frame buffer : Bytes) : SplitFrame :=
  match splitAt (frame.take ReadResponse.headLength) frame.length buffer.length with
  | .ok found => cutAt frame buffer found
  | .error _ => cutAt frame buffer none

/-- Bytes can be read in two parts. -/
theorem readExact_add (count more : Nat) (input : Bytes) : readExact (count + more) input =
    match readExact count input with
    | (.error e, rest) => (.error e, rest)
    | (.ok head, rest) =>
      match readExact more rest with
      | (.error e, rest) => (.error e, rest)
      | (.ok tail, rest) => (.ok (head ++ tail), rest) := by
  by_cases first : count ≤ input.length
  · rw [readExact_eq_ok first]
    dsimp only
    by_cases second : more ≤ (input.drop count).length
    · rw [readExact_eq_ok second, readExact_eq_ok (by rw [List.length_drop] at second; omega),
        List.take_add, List.drop_drop]
    · rw [readExact_eq_error (Nat.not_le.mp second), readExact_eq_error (by
        rw [List.length_drop] at second; omega)]
  · rw [readExact_eq_error (Nat.not_le.mp first), readExact_eq_error (by omega)]

theorem readOn_eq (inside : head.length ≤ count) (input : Bytes) : readOn head count input =
    match readExact (count - head.length) input with
    | (.error e, rest) => (.error e, rest)
    | (.ok tail, rest) => (.ok (head ++ tail), rest) := by
  have room := Buffer.behind_eq_ok inside
  unfold readOn
  exact room ▸ rfl

theorem readInto_eq {buffer : Bytes} (inside : count ≤ buffer.length) (input : Bytes) :
    readInto buffer count input =
      match readExact count input with
      | (.error e, rest) => (.error e, rest)
      | (.ok bytes, rest) => (.ok (bytes ++ buffer.drop count), rest) := by
  have room := Buffer.between_eq_ok (Nat.zero_le count) inside
  unfold readInto
  exact room ▸ rfl

/-- What is read first shows whether the rest is read in two parts. -/
theorem split_append {tail : Bytes} {length : Nat} {buffer : Bytes} {found : Option (Nat × Nat)}
    (first : head.length = min ReadResponse.headLength length)
    (second : tail.length = length - head.length)
    (cut : splitAt head length buffer.length = .ok found) :
    split (head ++ tail) buffer = cutAt (head ++ tail) buffer found := by
  have whole : (head ++ tail).length = length := by rw [List.length_append]; omega
  have front : (head ++ tail).take ReadResponse.headLength = head := by
    by_cases long : ReadResponse.headLength ≤ length
    · exact List.take_left' (by omega)
    · have none : tail = [] := List.eq_nil_of_length_eq_zero (by omega)
      rw [none, List.append_nil, List.take_of_length_le (by omega)]
  rw [split, whole, front, cut]

/-- Received in two parts or whole, a frame uses up the same bytes, or breaks off with them. -/
theorem readSplitFrame_eq (input buffer : Bytes) : readSplitFrame input buffer =
    match readFrame input with
    | (.error e, rest) => (.error e, rest)
    | (.ok frame, rest) => (.ok (split frame buffer), rest) := by
  unfold readSplitFrame readFrame
  rcases readHeader input with ⟨e | length, body⟩
  · rfl
  dsimp only
  generalize least : min ReadResponse.headLength length = start
  rw [congrArg (readExact · body) (show length = start + (length - start) by omega),
    readExact_add]
  rcases first : readExact start body with ⟨e | head, rest⟩
  · rfl
  have len := length_of_readExact first
  obtain ⟨found, cut, fits⟩ := splitAt_eq_ok head length buffer.length
  dsimp only
  rw [cut]
  match found with
  | none =>
    dsimp only
    rw [readOn_eq (by omega), len]
    rcases second : readExact (length - start) rest with ⟨e | tail, rest⟩
    · rfl
    have left := length_of_readExact second
    dsimp only
    rw [split_append (by omega) (by omega) cut]
    rfl
  | some (offset, count) =>
    have fits := fits offset count rfl
    have behind := fits.behind
    have ends := fits.ends
    dsimp only
    rw [readOn_eq behind, len, show length - start = offset - start + count by omega,
      readExact_add]
    rcases second : readExact (offset - start) rest with ⟨e | middle, rest⟩
    · rfl
    dsimp only
    rw [readInto_eq fits.small]
    rcases third : readExact count rest with ⟨e | data, rest⟩
    · rfl
    have middleLen := length_of_readExact second
    have dataLen := length_of_readExact third
    have apart : (head ++ middle).length = offset := by rw [List.length_append]; omega
    dsimp only
    rw [split_append (by omega) (by rw [List.length_append]; omega) cut, ← List.append_assoc,
      cutAt, List.take_left' apart, List.drop_left' apart]

theorem split_cases (frame buffer : Bytes) : split frame buffer = ⟨frame, none, buffer⟩ ∨
    ∃ offset count,
      Fits (frame.take ReadResponse.headLength) frame.length buffer.length offset count ∧
        split frame buffer =
          ⟨frame.take offset, some count, frame.drop offset ++ buffer.drop count⟩ := by
  obtain ⟨found, cut, fits⟩ :=
    splitAt_eq_ok (frame.take ReadResponse.headLength) frame.length buffer.length
  rw [split, cut]
  match found with
  | none => exact .inl rfl
  | some (offset, count) => exact .inr ⟨offset, count, fits offset count rfl, rfl⟩

/-- The data of a frame that was put into the buffer. -/
def SplitFrame.payload (s : SplitFrame) : Bytes := s.buffer.take (s.payloadLength.getD 0)

/-- A frame in two parts, of which the second lies over the first bytes of a buffer. -/
structure SplitFrame.Rejoins (s : SplitFrame) (buffer frame : Bytes) : Prop where
  whole : s.head ++ s.payload = frame
  room : s.payloadLength.getD 0 ≤ buffer.length
  length : s.buffer.length = buffer.length
  kept : s.buffer.drop (s.payloadLength.getD 0) = buffer.drop (s.payloadLength.getD 0)

theorem rejoins_split (frame buffer : Bytes) : (split frame buffer).Rejoins buffer frame := by
  rcases split_cases frame buffer with same | ⟨offset, count, fits, same⟩
  · rw [same]
    exact ⟨List.append_nil frame, Nat.zero_le _, rfl, rfl⟩
  · have data : (frame.drop offset).length = count := by
      have ends := fits.ends
      rw [List.length_drop]
      omega
    have payload : (split frame buffer).payload = frame.drop offset := by
      rw [same]
      exact List.take_left' data
    constructor
    · rw [payload, same]
      exact List.take_append_drop offset frame
    · rw [same]
      exact fits.small
    · have small := fits.small
      rw [same]
      simp only [List.length_append, List.length_drop] at data ⊢
      omega
    · rw [same]
      exact List.drop_left' data

/-- The next frame of a stream breaks off in two parts where it does whole, with the same error.
Otherwise it uses up the same bytes, and comes back from its parts; the rest of the buffer stays. -/
theorem readFrame_iff_readSplitFrame (input buffer : Bytes) :
    (∀ e rest, readSplitFrame input buffer = (.error e, rest) ↔
      readFrame input = (.error e, rest)) ∧
    (∀ frame rest, readFrame input = (.ok frame, rest) ↔
      ∃ s : SplitFrame, readSplitFrame input buffer = (.ok s, rest) ∧ s.Rejoins buffer frame) := by
  rw [readSplitFrame_eq]
  rcases readFrame input with ⟨e | frame, rest⟩
  · refine ⟨fun e' rest' => ?_, fun _ _ => ⟨nofun, nofun⟩⟩
    simp only [Prod.mk.injEq, Except.error.injEq]
  · refine ⟨fun _ _ => ⟨nofun, nofun⟩, fun frame' rest' => ⟨?_, ?_⟩⟩
    · intro read
      cases read
      exact ⟨_, rfl, rejoins_split frame buffer⟩
    · rintro ⟨s, read, rejoins⟩
      cases read
      rw [← rejoins.whole, (rejoins_split frame buffer).whole]

end Smb1.Netbios
