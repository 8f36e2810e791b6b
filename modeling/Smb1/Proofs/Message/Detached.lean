import Smb1.Proofs.Message.Ends

/-! A read response whose data was delivered apart from its frame. The frame that is left stops
where the data would begin, and is read all the same. -/
namespace Smb1

open Wire

namespace ReadResponse

variable {limit start : Nat} {unicode : Bool}

/-- A response to which the words at `start` were read while its data lay elsewhere. -/
def arrived (b : ReadResponse) (start : Nat) : ReadResponse :=
  { b.announced start with data := b.data, detached := true }

theorem reads_words_detached (b : ReadResponse) (count : UInt8) :
    Reads limit start unicode b.words ((ofDetached b.data).readWords count) (b.arrived start) := by
  refine .positioned ?_
  simp only [Encoder.append_assoc]
  refine .bind .u16 fun _ => .bind .u16 fun _ => .bind (.skip rfl) fun _ => .bind .u16 fun _ => ?_
  exact .bind .u16 fun _ => .bind .u16 fun _ => .last (.skip (by simp)) rfl

/-- What stands between the byte count and the data. -/
def padding (bytesStart : Nat) : Bytes :=
  List.replicate (Alignment.two.up bytesStart - bytesStart) 0

theorem bytesAt_bytes (b : ReadResponse) (start : Nat) (unicode : Bool) :
    b.bytes.bytesAt start unicode = padding start ++ b.data := by
  rw [bytes, Encoder.bytesAt_append, Encoder.bytesAt_align, Encoder.bytesAt_piece, padding]

end ReadResponse

namespace Chain

variable {start : Nat} {unicode : Bool}

theorem takes_detached (b : ReadResponse) (start : Nat) (unicode : Bool) :
    Body.Takes start unicode (.readResponse (.ofDetached b.data)) (.readResponse b)
      (.readResponse (b.arrived start)) (.readResponse (b.arrived start)) where
  command := rfl
  chained := rfl
  count := by
    have own : (Body.readResponse b).Expressible unicode := trivial
    exact Body.count_fresh own
  words := Body.fills_fill _ (b.reads_words_detached _).yields
  bytes _ _ _ _ := ⟨_, rfl⟩
  wordless none := nomatch (show 20 = 0 from none)
  hollow _ _ := rfl

/-- The link of a read response without its data. -/
theorem readLink_detached (b : ReadResponse) {buffer before after : Bytes}
    (len : before.length = start) (fits : stop (.readResponse b) start unicode ≤ 0xFFFF)
    (split : buffer = before ++ opening (.readResponse b) none start unicode ++ after)
    (bound : buffer.length < Wire.memoryLimit) :
    ∃ found r', readLink (.readResponse (.ofDetached b.data)) ⟨buffer, start, unicode⟩ =
      (.readResponse found, .ok (none, r')) ∧ found.data = b.data ∧ found.detached = true := by
  have shown : (Body.readResponse b).Expressible unicode := trivial
  obtain ⟨⟨_, atHead⟩, ⟨_, _, wordsLen, atWords⟩, _, _, countLen, atCount⟩ :=
    split_opening len split
  have takes := takes_detached b (wordsStart (.readResponse b) start) unicode
  have followed : Followed (.readResponse b) none (stop (.readResponse b) start unicode) :=
    ⟨nofun, nofun, fits⟩
  have headRead := Reads.written (fun _ => reads_head takes followed) len atHead bound
  rw [length_head, ← Nat.add_assoc] at headRead
  have wordsRead := readLinkWords_eq takes _ (Body.wordCount_le shown) wordsLen (atWords ▸ bound)
  rw [← atWords] at wordsRead
  have countRead := Reads.written (fun _ => .u16) countLen atCount bound
  obtain ⟨r', bytesRead⟩ : ∃ r', readLinkBytes
      (.readResponse (b.arrived (wordsStart (.readResponse b) start)))
      ((Body.readResponse b).reportedWordCount (UInt8.ofNat (Body.readResponse b).wordCount))
      ⟨buffer, wordsStart (.readResponse b) start + (Body.readResponse b).wordsLength, unicode⟩ =
        (.readResponse (b.arrived (wordsStart (.readResponse b) start)), .ok r') := by
    have inside : wordsStart (.readResponse b) start + (Body.readResponse b).wordsLength + 2 <
        Wire.memoryLimit := by
      simp only [atCount, List.length_append, countLen, Encoder.bytesAt_u16, Word.length_encode,
        size_u16] at bound
      omega
    have moved (r : Reader) (count : UInt16) := Reader.seekFrom_eq_ok_iff (r := r).mpr
      ⟨rfl, sum_lt_limit inside (lt_memoryLimit (Nat.le_of_lt_succ count.toNat_lt))⟩
    unfold readLinkBytes
    rw [countRead]
    dsimp only
    split <;> exact ⟨_, Prod.ext rfl (moved _ _)⟩
  refine ⟨b.arrived (wordsStart (.readResponse b) start), r', ?_, rfl, rfl⟩
  unfold readLink
  rw [headRead, ← wordsStart]
  dsimp only
  rw [wordsRead]
  dsimp only
  rw [bytesRead]
  rfl

end Chain

namespace Message

/-- The frame of a read response without its data. -/
def headFrame (header : Header) (b : ReadResponse) : Bytes :=
  header.encode ++ Chain.opening (.readResponse b) none Header.length header.isUnicode ++
    ReadResponse.padding (Chain.bytesStart (.readResponse b) Header.length)

theorem headFrame_append (header : Header) (b : ReadResponse) :
    headFrame header b ++ b.data =
      header.encode ++
        (Chain.link (.readResponse b) none).bytesAt Header.length header.isUnicode := by
  have bytes : (Body.readResponse b).bytes.bytesAt
      (Chain.bytesStart (.readResponse b) Header.length) header.isUnicode = _ :=
    b.bytesAt_bytes _ _
  rw [headFrame, Chain.link_eq_opening, bytes]
  simp only [List.append_assoc]

theorem headFrame_of_encode {config : Config} {m sent : Message} {maxSize : Nat} {frame : Bytes}
    {b : ReadResponse} (encoded : m.encode config maxSize = .ok (frame, sent))
    (single : m.bodies.take sent.links = [.readResponse b]) (signature : Octets 8) :
    sent.header.command = .readAndX ∧
      { sent.header with signature }.encode ++ frame.drop Header.length =
        headFrame { sent.header with signature } b ++ b.data := by
  have behind := drop_of_encode encoded
  obtain ⟨first, rest, bodies, -, -, rfl⟩ := encode_eq_ok encoded
  obtain ⟨head, written⟩ := Chain.encode_of_single single
  rw [bodies] at head
  cases head
  rw [written] at behind
  refine ⟨rfl, ?_⟩
  rw [headFrame_append, behind]
  rfl

theorem decode_headFrame {header : Header} {b : ReadResponse} {template : Message}
    (waiting : template.bodies = [.readResponse (.ofDetached b.data)])
    (command : header.command = .readAndX)
    (fits : (headFrame header b ++ b.data).length ≤ 0xFFFF) :
    ∃ received found, template.decode (headFrame header b) = (received, .ok ()) ∧
      received.links = 1 ∧ received.length = (headFrame header b ++ b.data).length ∧
      received.bodies = [.readResponse found] ∧ found.data = b.data ∧ found.detached = true := by
  have whole : (headFrame header b ++ b.data).length =
      Chain.stop (.readResponse b) Header.length header.isUnicode := by
    rw [headFrame_append, List.length_append, header.length_encode, Chain.length_link]
  have bound : (headFrame header b).length < Wire.memoryLimit :=
    Wire.lt_memoryLimit (by rw [List.length_append] at fits; omega)
  rw [whole] at fits ⊢
  have shown : (Body.readResponse b).Expressible header.isUnicode := trivial
  have counts : (Body.readResponse (.ofDetached b.data)).Counts (.readResponse b) :=
    Body.count_fresh shown
  obtain ⟨found, r', link, data, detached⟩ :=
    Chain.readLink_detached b header.length_encode fits rfl bound
  have ends := (Chain.readLink_written (Body.wordCount_le shown) counts header.length_encode rfl
    bound fits nofun link).1
  have chain : Chain.decode header.status template.bodies
      ⟨headFrame header b, Header.length, header.isUnicode⟩ = ([.readResponse found],
        .ok (1, r')) := by
    rw [waiting]
    exact Chain.decode_last link
  rw [headFrame, List.append_assoc] at bound chain ⊢
  exact ⟨_, found, decode_of_chain waiting bound command.symm chain, rfl, ends, rfl, data, detached⟩

end Message

end Smb1
