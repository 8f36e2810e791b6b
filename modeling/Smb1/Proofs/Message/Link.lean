import Smb1.Message.Chain
import Smb1.Proofs.Message.Body

/-! One link of a chain is read back as it was written, whatever stands before and behind it. -/
namespace Smb1.Chain

open Wire

variable {start : Nat} {unicode : Bool} {t b mid r : Body}

/-- The chain block of a link that ends at `stop`. -/
def block (next : Option Command) (stop : Nat) : Encoder :=
  match next with
  | some command => .u8 command.code ++ (.u8 0 ++ .u16 (UInt16.ofNat stop))
  | none => .u8 noCommand ++ (.u8 0 ++ .u16 noOffset)

/-- Where a link's parameter words start, behind word count and block. -/
def wordsStart (b : Body) (start : Nat) : Nat := start + 1 + b.blockSize

def bytesStart (b : Body) (start : Nat) : Nat := wordsStart b start + b.wordsLength + 2

/-- Where a link ends. -/
def stop (b : Body) (start : Nat) (unicode : Bool) : Nat :=
  bytesStart b start + (b.bytes.bytesAt (bytesStart b start) unicode).length

def head (b : Body) (next : Option Command) (start : Nat) (unicode : Bool) : Encoder :=
  .u8 (b.reportedWordCount (UInt8.ofNat b.wordCount)) ++
    if b.isAndX then block next (stop b start unicode) else ∅

def byteCount (b : Body) (start : Nat) (unicode : Bool) : Nat :=
  (b.bytes.bytesAt (bytesStart b start) unicode).length

theorem bytesAt_link (b : Body) (next : Option Command) (start : Nat) (unicode : Bool) :
    (link b next).bytesAt start unicode =
      (head b next start unicode).bytesAt start unicode ++
        b.words.bytesAt (wordsStart b start) unicode ++
        Word.encode (UInt16.ofNat (byteCount b start unicode)) ++
        b.bytes.bytesAt (bytesStart b start) unicode := by
  have even : (b.blockSize + b.wordsLength) % 2 = 0 := by
    have words := b.wordsLength_even
    unfold Body.blockSize
    split <;> omega
  have wordsSize : size (b.words.pieces (wordsStart b start) unicode) = b.wordsLength := by
    rw [size_eq_length_flatMap]
    exact b.length_words _ _
  have blockSize : (if b.isAndX then blockLength else 0) = b.blockSize := rfl
  have bytesSize : size (b.bytes.pieces (bytesStart b start) unicode) = byteCount b start unicode :=
    size_eq_length_flatMap _
  have places : start + 1 + (b.blockSize + b.wordsLength + size []) + 2 = bytesStart b start := by
    show start + 1 + (b.blockSize + b.wordsLength + 0) + 2 = start + 1 + b.blockSize + _ + 2
    omega
  have words : start + 1 + b.blockSize = wordsStart b start := rfl
  have stops : bytesStart b start + byteCount b start unicode = stop b start unicode := rfl
  have heads : (head b next start unicode).bytesAt start unicode =
      b.reportedWordCount (UInt8.ofNat b.wordCount) ::
        if b.isAndX then match next with
          | some command => [command.code, 0] ++ Word.encode (UInt16.ofNat (stop b start unicode))
          | none => [noCommand, 0] ++ Word.encode noOffset
        else [] := by
    unfold head
    cases b.isAndX <;> cases next <;> simp [block, encode_u8]
  have count : (b.blockSize + b.wordsLength + size []) / 2 = b.wordCount := rfl
  simp only [Encoder.bytesAt] at heads
  simp only [Encoder.bytesAt, link, blockSize, wordsSize, even, if_true, places, bytesSize, stops,
    words, heads, count]
  cases b.isAndX <;> cases next <;> simp [Piece.bytes]

/-- A link can be followed where its block says. -/
structure Followed (b : Body) (next : Option Command) (stop : Nat) : Prop where
  chained : next.isSome → b.isAndX = true
  command : ∀ command ∈ next, command ≠ .noAndXCommand
  inside : stop ≤ 0xFFFF

theorem reads_block {next : Option Command} {limit stop : Nat} (h : Followed b next stop)
    (positive : 0 < stop) :
    Reads limit start unicode (block next stop) readBlock
      (next.map fun command => ⟨command.code, stop⟩) := by
  cases next with
  | none => exact .bind .u8 fun _ => .bind (.skip rfl) fun _ => .last .u16 (by simp)
  | some command =>
    have inside := h.inside
    have offset : (UInt16.ofNat stop).toNat = stop :=
      UInt16.toNat_ofNat_of_lt' (show _ < 0x10000 by omega)
    have nonzero : UInt16.ofNat stop ≠ 0 := by
      intro zero
      have := congrArg UInt16.toNat zero
      rw [offset, UInt16.toNat_zero] at this
      omega
    have other : command.code ≠ noCommand := fun same =>
      h.command command rfl (Command.code_injective same)
    refine .bind .u8 fun _ => .bind (.skip rfl) fun _ => .last .u16 ?_
    simp only [nonzero, other, or_self, if_false, offset, Option.map_some]

theorem wordCount_eq_zero (h : t.Takes start unicode b mid r)
    (zero : b.reportedWordCount (UInt8.ofNat b.wordCount) = 0) : b.wordCount = 0 := by
  have count := h.count
  rw [zero, t.wordCountAdjustment_zero] at count
  exact count.symm

theorem reads_head {next : Option Command} {limit here : Nat}
    (h : t.Takes (wordsStart b start) unicode b mid r)
    (followed : Followed b next (stop b start unicode)) :
    Reads limit here unicode (head b next start unicode) (readLinkHead t)
      (b.reportedWordCount (UInt8.ofNat b.wordCount),
        next.map fun command => ⟨command.code, stop b start unicode⟩) := by
  refine .bind .u8 fun _ => ?_
  cases chained : b.isAndX with
  | true =>
    have counted : b.reportedWordCount (UInt8.ofNat b.wordCount) ≠ 0 := by
      intro zero
      have none := wordCount_eq_zero h zero
      simp only [Body.wordCount, Body.blockSize, chained, if_true] at none
      omega
    have positive : 0 < stop b start unicode := by
      simp only [stop, bytesStart]
      omega
    have test : (t.isAndX && b.reportedWordCount (UInt8.ofNat b.wordCount) != 0) = true := by
      simp [h.chained, chained, counted]
    simp only [test, if_true]
    exact .last (reads_block followed positive) rfl
  | false =>
    have test : (t.isAndX && b.reportedWordCount (UInt8.ofNat b.wordCount) != 0) = false := by
      simp [h.chained, chained]
    have alone : next = none := by
      cases next with
      | none => rfl
      | some command => exact absurd (followed.chained rfl) (by simp [chained])
    simp only [test, Bool.false_eq_true, if_false, alone, pure_bind]
    exact .pure

theorem length_head (b : Body) (next : Option Command) (start : Nat) (unicode : Bool) :
    ((head b next start unicode).bytesAt start unicode).length = 1 + b.blockSize := by
  cases chained : b.isAndX <;> cases next <;> simp [head, block, chained, Body.blockSize]

theorem readLinkWords_eq (h : t.Takes (wordsStart b start) unicode b mid r) {before : Bytes}
    (after : Bytes) (small : b.wordCount ≤ 255) (len : before.length = wordsStart b start)
    (bound : (before ++ b.words.bytesAt (wordsStart b start) unicode ++ after).length <
      Wire.memoryLimit) :
    readLinkWords t start (b.reportedWordCount (UInt8.ofNat b.wordCount))
        ⟨before ++ b.words.bytesAt (wordsStart b start) unicode ++ after, wordsStart b start,
          unicode⟩ =
      (mid, .ok ⟨before ++ b.words.bytesAt (wordsStart b start) unicode ++ after,
        wordsStart b start + b.wordsLength, unicode⟩) := by
  have even := b.wordsLength_even
  have counts : UInt8.ofNat (min 255 ((b.reportedWordCount (UInt8.ofNat b.wordCount)).toNat +
      (t.wordCountAdjustment (b.reportedWordCount (UInt8.ofNat b.wordCount))).toNat)) =
      UInt8.ofNat b.wordCount := by
    rw [h.count, Nat.min_eq_right small]
  have value : (UInt8.ofNat b.wordCount).toNat = b.wordCount :=
    UInt8.toNat_ofNat_of_lt' (show _ < 256 by omega)
  have size : b.wordCount * 2 = b.blockSize + b.wordsLength := by
    unfold Body.wordCount Body.blockSize
    split <;> omega
  have stop : start + (1 + b.wordCount * 2) = wordsStart b start + b.wordsLength := by
    unfold wordsStart
    omega
  have moved (r : Reader) : r.seekFrom start (1 + b.wordCount * 2) =
      .ok (r.seek (wordsStart b start + b.wordsLength)) := by
    have inside : wordsStart b start < memoryLimit := by
      simp only [List.length_append] at bound
      omega
    rw [Reader.seekFrom_eq_ok_iff, stop]
    exact ⟨rfl, sum_lt_limit inside (lt_memoryLimit (by omega))⟩
  have hasWords : (if t.isAndX then 2 < UInt8.ofNat b.wordCount else UInt8.ofNat b.wordCount ≠ 0) ↔
      b.wordsLength ≠ 0 := by
    rw [h.chained]
    unfold Body.blockSize at size
    split
    next chained =>
      rw [if_pos chained] at size
      rw [UInt8.lt_iff_toNat_lt, value, show (2 : UInt8).toNat = 2 from rfl]
      omega
    next plain =>
      rw [if_neg plain] at size
      rw [ne_eq, ← UInt8.toNat_inj, value, UInt8.toNat_zero]
      omega
  unfold readLinkWords
  simp only [counts, value, moved]
  by_cases none : b.wordsLength = 0
  · rw [if_neg (mt hasWords.mp (not_not_intro none)), h.wordless none]
    rfl
  · obtain ⟨position, filled⟩ := h.words before after len bound
    rw [if_pos (hasWords.mpr none), filled]
    rfl

theorem readLinkBytes_eq (h : t.Takes (wordsStart b start) unicode b mid r) {before : Bytes}
    (after : Bytes) {here : Nat} (place : here = wordsStart b start + b.wordsLength)
    (small : byteCount b start unicode ≤ 0xFFFF) (len : before.length = here)
    {buffer : Bytes} (split : buffer = before ++
      Word.encode (UInt16.ofNat (byteCount b start unicode)) ++
        b.bytes.bytesAt (bytesStart b start) unicode ++ after)
    (bound : buffer.length < Wire.memoryLimit) :
    readLinkBytes mid (b.reportedWordCount (UInt8.ofNat b.wordCount)) ⟨buffer, here, unicode⟩ =
      (r, .ok ⟨buffer, stop b start unicode, unicode⟩) := by
  have count : Decoder.u16 ⟨buffer, here, unicode⟩ =
      .ok (UInt16.ofNat (byteCount b start unicode), ⟨buffer, bytesStart b start, unicode⟩) := by
    have field : Reads (here + 2) here unicode (.u16 (UInt16.ofNat (byteCount b start unicode)))
        Decoder.u16 (UInt16.ofNat (byteCount b start unicode)) := .u16
    have read := field before (b.bytes.bytesAt (bytesStart b start) unicode ++ after) len (by simp)
    simp only [Encoder.bytesAt_u16, Word.length_encode, size_u16, ← List.append_assoc,
      ← split] at read
    rw [read bound, place]
    rfl
  have value : (UInt16.ofNat (byteCount b start unicode)).toNat = byteCount b start unicode :=
    UInt16.toNat_ofNat_of_lt' (show _ < 0x10000 by omega)
  have moved (r : Reader) : r.seekFrom (bytesStart b start) (byteCount b start unicode) =
      .ok (r.seek (stop b start unicode)) := by
    have inside : bytesStart b start < memoryLimit := by
      have behind : bytesStart b start = before.length + 2 := by rw [len, place]; rfl
      simp only [split, List.length_append, Word.length_encode, size_u16] at bound
      omega
    rw [Reader.seekFrom_eq_ok_iff]
    exact ⟨rfl, sum_lt_limit inside (lt_memoryLimit small)⟩
  unfold readLinkBytes
  simp only [count, value, moved]
  by_cases some : b.reportedWordCount (UInt8.ofNat b.wordCount) ≠ 0 ∨ byteCount b start unicode ≠ 0
  · have before_len : (before ++ Word.encode (UInt16.ofNat (byteCount b start unicode))).length =
        bytesStart b start := by
      simp only [List.length_append, len, place, Word.length_encode, size_u16]
      rfl
    obtain ⟨position, filled⟩ := h.bytes _ after before_len (split ▸ bound)
    have filled : mid.readBytes (byteCount b start unicode) ⟨buffer, bytesStart b start, unicode⟩ =
        (r, .ok ⟨buffer, position, unicode⟩) := split ▸ filled
    rw [if_pos some, filled]
    rfl
  · have none : b.reportedWordCount (UInt8.ofNat b.wordCount) = 0 ∧
        byteCount b start unicode = 0 := by simpa using some
    rw [if_neg some, h.hollow (wordCount_eq_zero h none.1) none.2]
    rfl

theorem length_link (b : Body) (next : Option Command) (start : Nat) (unicode : Bool) :
    start + ((link b next).bytesAt start unicode).length = stop b start unicode := by
  simp only [bytesAt_link, List.length_append, length_head, b.length_words, Word.length_encode,
    size_u16, stop, byteCount, bytesStart, wordsStart]
  omega

/-- A link is read into a template that takes its body, and the cursor ends behind it. -/
theorem readLink_eq {next : Option Command} (h : t.Takes (wordsStart b start) unicode b mid r)
    (small : b.wordCount ≤ 255) (followed : Followed b next (stop b start unicode))
    {before : Bytes} (after : Bytes) (len : before.length = start)
    (bound : (before ++ (link b next).bytesAt start unicode ++ after).length < Wire.memoryLimit) :
    readLink t ⟨before ++ (link b next).bytesAt start unicode ++ after, start, unicode⟩ =
      (r, .ok (next.map fun command => ⟨command.code, stop b start unicode⟩,
        ⟨before ++ (link b next).bytesAt start unicode ++ after, stop b start unicode,
          unicode⟩)) := by
  have fits := followed.inside
  have counted : byteCount b start unicode ≤ 0xFFFF := by
    unfold stop at fits
    unfold byteCount
    omega
  generalize whole : before ++ (link b next).bytesAt start unicode ++ after = buffer at bound ⊢
  rw [bytesAt_link] at whole
  have headLen := length_head b next start unicode
  have places : start + (1 + b.blockSize) = wordsStart b start := by
    unfold wordsStart
    omega
  have headRead : readLinkHead t ⟨buffer, start, unicode⟩ =
      .ok ((b.reportedWordCount (UInt8.ofNat b.wordCount),
        next.map fun command => ⟨command.code, stop b start unicode⟩),
        ⟨buffer, wordsStart b start, unicode⟩) := by
    have reads : Reads (start + (1 + b.blockSize)) start unicode (head b next start unicode)
        (readLinkHead t) (b.reportedWordCount (UInt8.ofNat b.wordCount),
          next.map fun command => ⟨command.code, stop b start unicode⟩) := reads_head h followed
    have read := reads before
      (b.words.bytesAt (wordsStart b start) unicode ++
        Word.encode (UInt16.ofNat (byteCount b start unicode)) ++
        b.bytes.bytesAt (bytesStart b start) unicode ++ after) len (Nat.le_of_eq (by rw [headLen]))
    simp only [← List.append_assoc] at read whole
    rw [whole, headLen, places] at read
    exact read bound
  have wordsRead : readLinkWords t start (b.reportedWordCount (UInt8.ofNat b.wordCount))
      ⟨buffer, wordsStart b start, unicode⟩ =
      (mid, .ok ⟨buffer, wordsStart b start + b.wordsLength, unicode⟩) := by
    have reached : (before ++ (head b next start unicode).bytesAt start unicode).length =
        wordsStart b start := by rw [List.length_append, len, headLen, places]
    have read := readLinkWords_eq h (Word.encode (UInt16.ofNat (byteCount b start unicode)) ++
      b.bytes.bytesAt (bytesStart b start) unicode ++ after) small reached
    simp only [← List.append_assoc] at read whole
    rw [whole] at read
    exact read bound
  have bytesRead : readLinkBytes mid (b.reportedWordCount (UInt8.ofNat b.wordCount))
      ⟨buffer, wordsStart b start + b.wordsLength, unicode⟩ =
      (r, .ok ⟨buffer, stop b start unicode, unicode⟩) := by
    have reached : (before ++ (head b next start unicode).bytesAt start unicode ++
        b.words.bytesAt (wordsStart b start) unicode).length =
          wordsStart b start + b.wordsLength := by
      rw [List.length_append, List.length_append, len, headLen, places, b.length_words]
    simp only [← List.append_assoc] at whole
    exact readLinkBytes_eq h after rfl counted reached whole.symm bound
  unfold readLink
  simp only [headRead, wordsRead, bytesRead]
  rfl

end Smb1.Chain
