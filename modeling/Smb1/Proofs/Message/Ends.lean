import Smb1.Proofs.Message.Decoding
import Smb1.Proofs.Message.RoundTrip

/-! Where a written chain ends for a reader. Whatever its templates make of the words and bytes, a
reader that counts the words of each link as its writer did comes to the end of the frame. -/
namespace Smb1

open Wire

namespace Body

/-- A template takes the word count on the wire for the count of the words that `b` wrote. -/
def Counts (t b : Body) : Prop :=
  (b.reportedWordCount (UInt8.ofNat b.wordCount)).toNat +
    (t.wordCountAdjustment (b.reportedWordCount (UInt8.ofNat b.wordCount))).toNat = b.wordCount

instance (t b : Body) : Decidable (t.Counts b) := Nat.decEq _ _

end Body

/-- What does not depend on a limit is read where it lies. -/
theorem Wire.Reads.written {e : Encoder} {d : Decoder α} {a : α} {buffer before after : Bytes}
    {start : Nat} {unicode : Bool} (h : ∀ limit, Reads limit start unicode e d a)
    (len : before.length = start) (split : buffer = before ++ e.bytesAt start unicode ++ after)
    (bound : buffer.length < memoryLimit) :
    d ⟨buffer, start, unicode⟩ =
      .ok (a, ⟨buffer, start + (e.bytesAt start unicode).length, unicode⟩) := by
  subst split
  exact h _ before after len (Nat.le_refl _) bound

namespace Chain

variable {start : Nat} {unicode : Bool} {t b c : Body} {next : Option Command}

/-- A link up to its data bytes. -/
def opening (b : Body) (next : Option Command) (start : Nat) (unicode : Bool) : Bytes :=
  (head b next start unicode).bytesAt start unicode ++
    b.words.bytesAt (wordsStart b start) unicode ++
    Word.encode (UInt16.ofNat (byteCount b start unicode))

theorem link_eq_opening (b : Body) (next : Option Command) (start : Nat) (unicode : Bool) :
    (link b next).bytesAt start unicode =
      opening b next start unicode ++ b.bytes.bytesAt (bytesStart b start) unicode :=
  bytesAt_link b next start unicode

/-- Where the parts of a link lie that stands in a message. -/
theorem split_opening {buffer before after : Bytes} (len : before.length = start)
    (split : buffer = before ++ opening b next start unicode ++ after) :
    (∃ later, buffer = before ++ (head b next start unicode).bytesAt start unicode ++ later) ∧
      (∃ earlier later, earlier.length = wordsStart b start ∧
        buffer = earlier ++ b.words.bytesAt (wordsStart b start) unicode ++ later) ∧
      ∃ earlier later, earlier.length = wordsStart b start + b.wordsLength ∧
        buffer = earlier ++ (Encoder.u16 (UInt16.ofNat (byteCount b start unicode))).bytesAt
          (wordsStart b start + b.wordsLength) unicode ++ later := by
  have behindHead : (before ++ (head b next start unicode).bytesAt start unicode).length =
      wordsStart b start := by
    rw [List.length_append, len, length_head, wordsStart]
    omega
  have behindWords : (before ++ (head b next start unicode).bytesAt start unicode ++
      b.words.bytesAt (wordsStart b start) unicode).length =
        wordsStart b start + b.wordsLength := by
    rw [List.length_append, behindHead, b.length_words]
  rw [opening] at split
  simp only [← List.append_assoc] at split
  refine ⟨⟨b.words.bytesAt (wordsStart b start) unicode ++
      (Word.encode (UInt16.ofNat (byteCount b start unicode)) ++ after), ?_⟩,
    ⟨_, Word.encode (UInt16.ofNat (byteCount b start unicode)) ++ after, behindHead, ?_⟩,
    ⟨_, after, behindWords, ?_⟩⟩
  · rw [split]
    simp only [List.append_assoc]
  · rw [split]
    simp only [List.append_assoc]
  · rw [split, Encoder.bytesAt_u16]

theorem reads_block_some (command : Command) (stop limit : Nat) :
    Reads limit start unicode (block (some command) stop) readBlock
      (if UInt16.ofNat stop = 0 ∨ command.code = noCommand then none
        else some ⟨command.code, (UInt16.ofNat stop).toNat⟩) :=
  .bind .u8 fun _ => .bind (.skip rfl) fun _ => .last .u16 rfl

/-- Whatever else the first bytes of a link say, they show its word count; and a successor that a
reader finds in them is the one that was written. -/
theorem readLinkHead_written {buffer before after : Bytes} {rawCount : UInt8}
    {successor : Option Successor} {behind : Reader} (len : before.length = start)
    (split : buffer = before ++ (head b next start unicode).bytesAt start unicode ++ after)
    (bound : buffer.length < Wire.memoryLimit) (fits : stop b start unicode ≤ 0xFFFF)
    (chained : next.isSome → b.isAndX = true)
    (read : readLinkHead t ⟨buffer, start, unicode⟩ = .ok ((rawCount, successor), behind)) :
    rawCount = b.reportedWordCount (UInt8.ofNat b.wordCount) ∧
      ∀ command ∈ next, ∀ found ∈ successor, found = ⟨command.code, stop b start unicode⟩ := by
  generalize counted : b.reportedWordCount (UInt8.ofNat b.wordCount) = raw
  generalize others : (if b.isAndX then block next (stop b start unicode) else ∅ : Encoder) = rest
  have fields : head b next start unicode = .u8 raw ++ rest := by rw [head, counted, others]
  rw [fields, Encoder.bytesAt_append, Encoder.bytesAt_u8, Word.length_encode, size_u8,
    ← List.append_assoc] at split
  obtain ⟨count, mid, first, read⟩ := Decoder.bind_eq_ok read
  have shown : Decoder.u8 ⟨buffer, start, unicode⟩ = .ok (raw, ⟨buffer, start + 1, unicode⟩) :=
    Reads.written (fun _ => .u8) len
      (by rw [split, Encoder.bytesAt_u8]; exact List.append_assoc ..) bound
  rw [shown] at first
  cases first
  split at read
  next named =>
    obtain ⟨found, behindBlock, blockRead, done⟩ := Decoder.bind_eq_ok read
    cases done
    refine ⟨rfl, fun command member => ?_⟩
    cases member
    rw [chained rfl, if_pos rfl] at others
    subst others
    have here : (before ++ Word.encode rawCount).length = start + 1 := by simp [len]
    have block := Reads.written (reads_block_some command (stop b start unicode)) here split bound
    have value := (Prod.mk.inj (Except.ok.inj (block.symm.trans blockRead))).1
    rintro found rfl
    split at value
    · cases value
    · rw [UInt16.toNat_ofNat_of_lt' (show _ < 0x10000 by omega)] at value
      cases value
      rfl
  next plain =>
    obtain ⟨found, behindBlock, none, done⟩ := Decoder.bind_eq_ok read
    cases none
    cases done
    exact ⟨rfl, fun _ _ _ member => by cases member⟩

/-- Words that are counted as they were written end where they were written. -/
theorem position_readLinkWords {rawCount : UInt8} {r r' : Reader}
    (small : b.wordCount ≤ 255) (counts : t.Counts b)
    (shown : rawCount = b.reportedWordCount (UInt8.ofNat b.wordCount))
    (read : readLinkWords t start rawCount r = (c, .ok r')) :
    r'.position = wordsStart b start + b.wordsLength := by
  have words := b.wordsLength_even
  have filled : Decoder.filled (readLinkWords t start rawCount) r = .ok (c, r') :=
    Decoder.filled_eq_ok.mpr read
  have stop : r'.position = start + (1 + (UInt8.ofNat (min 255
      (rawCount.toNat + (t.wordCountAdjustment rawCount).toNat))).toNat * 2) :=
    Decoder.position_of_filled filled
  have counted : rawCount.toNat + (t.wordCountAdjustment rawCount).toNat = b.wordCount := by
    rw [shown]
    exact counts
  have value : (UInt8.ofNat b.wordCount).toNat = b.wordCount :=
    UInt8.toNat_ofNat_of_lt' (show _ < 256 by omega)
  rw [stop, counted, Nat.min_eq_right small, value, Body.wordCount, wordsStart]
  unfold Body.blockSize
  split <;> omega

/-- A reader ends where the link was said to end, and goes on where it was said to go on. Of the
data bytes, none need be there. -/
theorem readLink_written {buffer before after : Bytes} {successor : Option Successor}
    {r' : Reader} (small : b.wordCount ≤ 255) (counts : t.Counts b) (len : before.length = start)
    (split : buffer = before ++ opening b next start unicode ++ after)
    (bound : buffer.length < Wire.memoryLimit) (fits : stop b start unicode ≤ 0xFFFF)
    (chained : next.isSome → b.isAndX = true)
    (read : readLink t ⟨buffer, start, unicode⟩ = (c, .ok (successor, r'))) :
    r'.position = stop b start unicode ∧
      ∀ command ∈ next, ∀ found ∈ successor, found = ⟨command.code, stop b start unicode⟩ := by
  have few : byteCount b start unicode ≤ 0xFFFF := by
    unfold stop at fits
    unfold byteCount
    omega
  obtain ⟨⟨_, atHead⟩, -, _, _, reached, atCount⟩ := split_opening len split
  have decoded := linkDecoder_eq_ok.mpr read
  unfold linkDecoder at decoded
  obtain ⟨here, there, started, rest⟩ := Decoder.bind_eq_ok decoded
  cases started
  obtain ⟨⟨rawCount, found⟩, behindHead, headRead, rest⟩ := Decoder.bind_eq_ok rest
  obtain ⟨filled, behindWords, wordsRead, rest⟩ := Decoder.bind_eq_ok rest
  obtain ⟨c', behindBytes, bytesRead, done⟩ := Decoder.bind_eq_ok rest
  cases done
  obtain ⟨shown, named⟩ := readLinkHead_written len atHead bound fits chained headRead
  refine ⟨?_, named⟩
  have wordsEnd := position_readLinkWords small counts shown (Decoder.filled_eq_ok.mp wordsRead)
  have headKept := (extends_readLinkHead t : Extends 0 _ _).kept headRead
  have wordsKept := (extends_readLinkWords t start rawCount : Extends 0 _ _).kept wordsRead
  rw [headKept, wordsEnd] at wordsKept
  rw [filled_readLinkBytes, wordsKept] at bytesRead
  obtain ⟨count, behindCount, countRead, rest⟩ := Decoder.bind_eq_ok bytesRead
  obtain ⟨there, _, started, rest⟩ := Decoder.bind_eq_ok rest
  cases started
  have counted := Reads.written (fun _ => .u16) reached atCount bound
  rw [Encoder.bytesAt_u16, Word.length_encode, size_u16] at counted
  have value : (UInt16.ofNat (byteCount b start unicode)).toNat = byteCount b start unicode :=
    UInt16.toNat_ofNat_of_lt' (show _ < 0x10000 by omega)
  cases counted.symm.trans countRead
  rw [Decoder.position_of_filled rest, value]
  rfl

/-- A frame that carries one body is written without a successor. -/
theorem encode_of_single {config : Config} {response : Bool} {level : Nat} {bodies : List Body}
    (single : bodies.take (carried config response level bodies) = [b]) :
    bodies.head? = some b ∧ encode config response level bodies = link b none := by
  cases bodies with
  | nil => cases single
  | cons first rest =>
    cases successor : next? config response level first rest with
    | none =>
      rw [carried_of_none successor] at single
      cases single
      exact ⟨rfl, encode_of_none successor⟩
    | some next =>
      obtain ⟨-, tail, rfl⟩ := next?_eq_some successor
      obtain ⟨more, count⟩ : ∃ n, carried config response (level + 1) (next :: tail) = n + 1 :=
        ⟨_, (Nat.succ_pred_eq_of_pos (carried_pos ..)).symm⟩
      rw [carried_of_some successor, count] at single
      cases single

theorem Decodes.links_pos {status : UInt32} {templates received : List Body} {links : Nat}
    {r r' : Reader} (h : Decodes status templates r received links r') : 0 < links := by
  cases h <;> omega

/-- A reader that gets all the links of a frame ends where the last of them does. -/
theorem position_of_decodes {config : Config} {response : Bool} {status : UInt32}
    {buffer : Bytes} {r' : Reader} (bound : buffer.length < Wire.memoryLimit) (bodies : List Body)
    (nonempty : bodies ≠ []) {level : Nat} {templates received : List Body} {start : Nat}
    {before after : Bytes} (len : before.length = start)
    (split : buffer =
      before ++ (encode config response level bodies).bytesAt start unicode ++ after)
    (fits : start + ((encode config response level bodies).bytesAt start unicode).length ≤ 0xFFFF)
    (small : ∀ b ∈ bodies.take (carried config response level bodies), b.wordCount ≤ 255)
    (counts : ∀ pair ∈ templates.zip (bodies.take (carried config response level bodies)),
      pair.1.Counts pair.2)
    (read : Decodes status templates ⟨buffer, start, unicode⟩ received
      (carried config response level bodies) r') :
    r'.position =
      start + ((encode config response level bodies).bytesAt start unicode).length := by
  induction bodies generalizing level templates received start before with
  | nil => exact absurd rfl nonempty
  | cons b rest ih =>
    cases successor : next? config response level b rest with
    | none =>
      rw [encode_of_none successor] at split fits ⊢
      rw [carried_of_none successor] at small counts read
      rw [length_link] at fits ⊢
      rw [link_eq_opening, ← List.append_assoc, List.append_assoc] at split
      cases read with
      | last link _ =>
        exact (readLink_written (small b (by simp)) (counts (_, b) (by simp)) len split bound fits
          nofun link).1
      | next _ _ _ others => exact absurd others.links_pos (by omega)
    | some next =>
      obtain ⟨chained, tail, rfl⟩ := next?_eq_some successor
      have more := carried_pos config response (level + 1) next tail
      rw [encode_of_some successor, Encoder.bytesAt_append, length_link] at split fits ⊢
      rw [carried_of_some successor, List.take_succ_cons] at small counts
      rw [carried_of_some successor] at read
      rw [List.length_append, ← Nat.add_assoc, length_link] at fits ⊢
      generalize count : carried config response (level + 1) (next :: tail) = n at *
      cases read with
      | last _ _ => exact absurd more (Nat.lt_irrefl 0)
      | @next t c other others received found _ _ mid _ read _ _ behind =>
        have linkSplit : buffer = before ++ opening b (some next.command) start unicode ++
            (b.bytes.bytesAt (bytesStart b start) unicode ++
              (encode config response (level + 1) (next :: tail)).bytesAt (stop b start unicode)
                unicode ++ after) := by
          rw [split, link_eq_opening]
          simp only [List.append_assoc]
        obtain ⟨_, named⟩ := readLink_written (small b (by simp)) (counts (t, b) (by simp)) len
          linkSplit bound (by omega) (fun _ => chained) read
        have reached : (before ++ (link b (some next.command)).bytesAt start unicode).length =
            stop b start unicode := by rw [List.length_append, len, length_link]
        have there : mid.seek found.offset = ⟨buffer, stop b start unicode, unicode⟩ := by
          rw [named _ rfl found rfl, (readLink_extended read).1]
          rfl
        rw [there] at behind
        exact ih (by simp) reached (by rw [split]; simp only [List.append_assoc]) fits
          (fun body member => small body (List.mem_cons_of_mem _ (count ▸ member)))
          (fun pair member => counts pair (List.mem_cons_of_mem _ (count ▸ member)))
          (count ▸ behind)

end Chain

namespace Message

theorem length_of_encode {m sent : Message} {config : Config} {maxSize : Nat} {frame : Bytes}
    (encoded : m.encode config maxSize = .ok (frame, sent)) :
    Header.length ≤ frame.length ∧ frame.length ≤ maxSize := by
  obtain ⟨head, rest, -, whole, fits, -⟩ := encode_eq_ok encoded
  refine ⟨?_, fits⟩
  rw [whole, List.length_append, Header.length_encode]
  omega

/-- A reader that gets all the links of an encoded message finds the length it was written with,
whatever signature was put into its header since. -/
theorem length_of_decode {m sent template received : Message} {config : Config} {maxSize : Nat}
    {frame : Bytes} (encoded : m.encode config maxSize = .ok (frame, sent))
    (small : maxSize ≤ 65535) (signature : Octets 8)
    (words : ∀ b ∈ m.bodies.take sent.links, b.wordCount ≤ 255)
    (counts : ∀ pair ∈ template.bodies.zip (m.bodies.take sent.links), pair.1.Counts pair.2)
    (decoded : template.decode
      ({ sent.header with signature }.encode ++ frame.drop Header.length) = (received, .ok ()))
    (links : received.links = sent.links) : received.length = frame.length := by
  have behind := drop_of_encode encoded
  obtain ⟨head, rest, bodies, whole, fits, rfl⟩ := encode_eq_ok encoded
  obtain ⟨header, _, first, others, found, count, reader, headRead, waiting, _, chain, rfl⟩ :=
    decode_eq_ok_iff.mp decoded
  rw [behind] at headRead chain
  have length : frame.length = Header.length +
      ((Chain.encode config m.header.isResponse 0 m.bodies).bytesAt Header.length
        m.header.isUnicode).length := by
    rw [whole, List.length_append, Header.length_encode]
  generalize resigned : ({ m.header.forLink head.command with signature } : Header) = again
    at headRead chain
  have unicode : again.isUnicode = m.header.isUnicode := by
    rw [← resigned]
    rfl
  have bound : (again.encode ++ (Chain.encode config m.header.isResponse 0 m.bodies).bytesAt
      Header.length m.header.isUnicode).length < Wire.memoryLimit := by
    rw [List.length_append, Header.length_encode, ← length]
    exact Wire.lt_memoryLimit (Nat.le_trans fits small)
  rw [Header.decode_encode_append again _ bound] at headRead
  cases headRead
  rw [again.isUnicode_received, unicode] at chain
  have links : count = Chain.carried config m.header.isResponse 0 m.bodies := links
  rw [links] at chain
  have ends := Chain.position_of_decodes bound m.bodies (by simp [bodies])
    again.length_encode (List.append_nil _).symm (by omega) words counts chain
  exact ends.trans length.symm

end Message

end Smb1
