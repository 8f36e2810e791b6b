import Smb1.Proofs.Message.Numerals
import Smb1.Proofs.Message.Prefix
import Smb1.Proofs.Message.RoundTrip

/-! Which numbers of a message can be wrong. A number is written with the low digits that its field
takes, so it is right if its field is wide enough. For what counts bytes of the message, a capacity
that two bytes can show is enough; totals, setup counts, word counts and the length of a challenge
are cut down whatever the capacity is. -/
namespace Smb1

open Wire
open Transaction (LiesAt)

variable {start : Nat} {unicode : Bool}

namespace Body

/-- Words of a link as they are announced. The extended answer to opening a file announces fewer
than it has. -/
def announcedWordCount (b : Body) : Nat :=
  match b with
  | createResponse x => if x.extended then 42 else b.wordCount
  | _ => b.wordCount

theorem reportedWordCount_eq (b : Body) :
    b.reportedWordCount (UInt8.ofNat b.wordCount) = UInt8.ofNat b.announcedWordCount := by
  cases b with
  | createResponse x =>
    simp only [reportedWordCount, announcedWordCount, CreateResponse.reportedWordCount]
    cases extended : x.extended with
    | false => simp only [Bool.false_and, Bool.false_eq_true, if_false]
    | true =>
      have chained : (createResponse x).isAndX = true := rfl
      rw [wordCount_chained chained, wordsLength, if_pos extended]
      rfl
  | _ => rfl

end Body

namespace Chain

namespace Placed

variable {p : Placed}

/-- The numbers of a link. -/
def numerals (unicode : Bool) (p : Placed) : List Numeral :=
  let words := wordsStart p.body p.start
  ⟨.wordCount, [(p.start, 1)], p.body.announcedWordCount⟩ ::
    (if p.body.isAndX ∧ p.next.isSome then
      [⟨.successor, [(p.start + 3, 2)], stop p.body p.start unicode⟩]
    else []) ++
    (p.body.numerals words unicode).map (Numeral.shift words) ++
    [⟨.byteCount, [(words + p.body.wordsLength, 2)], byteCount p.body p.start unicode⟩]

theorem length_block (p : Placed) : (p.block unicode).length = p.body.blockSize := by
  unfold block Body.blockSize
  split
  · cases p.next <;> simp
  · rfl

/-- All numbers of a link are truncated and tell of the frame. -/
theorem numerals_written {frame : Bytes} (lies : LiesAt (p.bytes unicode) frame p.start) :
    ∀ n ∈ p.numerals unicode, n.Truncates frame ∧ n.Describes 0 frame := by
  obtain ⟨b, next, start⟩ := p
  have ends : stop b start unicode ≤ 0 + frame.length := by
    obtain ⟨before, after, rfl, here⟩ := lies
    have size := length_link b (next.map Body.command) start unicode
    simp only [List.length_append, here, Placed.bytes]
    omega
  rw [bytes_eq, spelled, b.reportedWordCount_eq, ← encode_u8] at lies
  -- The pieces of a link are joined to the left, so the last of them comes off first.
  have words : LiesAt _ frame (start + (1 + b.blockSize)) :=
    lies.left.left.right (by simp [length_block])
  have count : LiesAt _ frame (start + (1 + b.blockSize + b.wordsLength)) :=
    lies.left.right (by simp [length_block]; omega)
  have bytes : LiesAt _ frame (start + (1 + b.blockSize + b.wordsLength + 2)) :=
    lies.right (by simp [length_block]; omega)
  simp only [← Nat.add_assoc] at words count bytes
  simp only [numerals, List.mem_append, List.mem_cons, List.mem_map, List.not_mem_nil, or_false]
  rintro n (((rfl | linked) | ⟨n, among, rfl⟩) | rfl)
  · exact ⟨.u8 (lies.left.left.left.left.slice (Word.length_encode _)), trivial⟩
  · split at linked
    next both =>
      obtain rfl := List.mem_singleton.mp linked
      obtain ⟨next, rfl⟩ := Option.isSome_iff_exists.mp both.2
      have block := lies.left.left.left.right (Word.length_encode _)
      rw [Placed.block, if_pos both.1] at block
      exact ⟨.u16 ((block.right rfl).slice (Word.length_encode _)), ends⟩
    · cases linked
  · exact ⟨words.truncates (b.truncates_words n among),
      bytes.describes (b.describes_bytes n among) _⟩
  · exact ⟨.u16 (count.slice (Word.length_encode _)), Nat.le_trans (Nat.le_add_left ..) ends⟩

end Placed

/-- Every link lies in the frame where it should. -/
theorem placed_lies {frame : Bytes} {bodies : List Body} {p : Placed}
    (among : p ∈ placed unicode start bodies)
    (lies : LiesAt ((joined bodies).bytesAt start unicode) frame start) :
    LiesAt (p.bytes unicode) frame p.start := by
  rw [bytesAt_joined] at lies
  induction bodies generalizing start with
  | nil => cases among
  | cons b rest ih =>
    rw [placed, List.flatMap_cons] at lies
    rcases among with _ | ⟨_, among⟩
    · exact lies.left
    · refine ih among ?_
      have behind := lies.right rfl
      rwa [Placed.bytes, length_link] at behind

end Chain

/-- Every number that is written shows what it should exactly when its field is wide enough for
it, and lengths and offsets lead to their payloads. Where the capacity of a frame fits two bytes,
all that counts bytes of it in two bytes or more is right. In a referral that is written, offsets
are right, since they are compared with their fields, and so is the consumed length, since its
doubling did not overflow; the size of an entry, the number of entries and the number of names need
not be. -/
theorem encode_shown_iff_fits (config : Config) (maxSize : Nat) (unicode : Bool) :
    (∀ {m sent : Message} {frame : Bytes}, m.encode config maxSize = .ok (frame, sent) →
      ∀ p ∈ Chain.placed m.header.isUnicode Header.length (m.bodies.take sent.links),
      ∀ n ∈ p.numerals m.header.isUnicode, (n.shown frame = n.value ↔ n.Fits) ∧
        n.Describes 0 frame ∧
        (maxSize ≤ 0xFFFF → n.quantity.Measures → 2 ≤ n.width → n.shown frame = n.value)) ∧
    ∀ {r : Transaction.ReferralResponse} {bytes : Bytes}, r.encode unicode = .ok bytes →
      ∀ n ∈ r.numerals unicode, (n.shown bytes = n.value ↔ n.Fits) ∧ n.Describes 0 bytes ∧
        (n.quantity.Whole → n.shown bytes = n.value) := by
  constructor
  · intro m sent frame encoded p among n member
    obtain ⟨head, rest, -, whole, room, rfl⟩ := Message.encode_eq_ok encoded
    rw [Chain.encode_eq_joined] at whole
    have lies : LiesAt (p.bytes m.header.isUnicode) frame p.start := Chain.placed_lies among
      ⟨_, [], by rw [whole, List.append_nil], Header.length_encode _⟩
    obtain ⟨truncates, describes⟩ := Chain.Placed.numerals_written lies n member
    refine ⟨truncates.shown_iff, describes, fun small measures wide => ?_⟩
    have most := describes.value_le measures
    have inside : n.value < capacity 2 := by
      show n.value < 0x10000
      omega
    exact truncates.shown_iff.mpr (Nat.lt_of_lt_of_le inside (capacity_le wide))
  · intro r bytes encoded n member
    have sent := Transaction.ReferralResponse.numerals_sent encoded n member
    exact ⟨sent.truncates.shown_iff, sent.describes,
      fun whole => sent.truncates.shown_iff.mpr (sent.whole whole)⟩

/-- Two links and five referrals, all of whose numbers fit. -/
theorem encode_shown_iff_fits_chained :
    (∃ (frame : Bytes) (sent : Message),
      Message.chainedLogon.encode (Config.standard 0 "") 65535 = .ok (frame, sent) ∧
      ∀ p ∈ Chain.placed true Header.length (Message.chainedLogon.bodies.take 2),
      ∀ n ∈ p.numerals true, n.shown frame = n.value) ∧
    ∃ bytes, Transaction.ReferralResponse.mixed.encode true = .ok bytes ∧
      ∀ n ∈ Transaction.ReferralResponse.mixed.numerals true, n.shown bytes = n.value := by
  constructor
  · have two : (Message.chainedLogon.encode (Config.standard 0 "") 65535).toOption.map (·.2.links) =
        some 2 := by decide +kernel
    have fit : ∀ p ∈ Chain.placed true Header.length (Message.chainedLogon.bodies.take 2),
        ∀ n ∈ p.numerals true, n.Fits := by decide +kernel
    cases encoded : Message.chainedLogon.encode (Config.standard 0 "") 65535 with
    | error e =>
      rw [encoded] at two
      cases two
    | ok pair =>
      obtain ⟨frame, sent⟩ := pair
      rw [encoded] at two
      have links : sent.links = 2 := Option.some.inj two
      have shown := (encode_shown_iff_fits (Config.standard 0 "") 65535 true).1 encoded
      rw [links] at shown
      exact ⟨frame, sent, rfl, fun p among n member =>
        (shown p among n member).1.mpr (fit p among n member)⟩
  · have size : (Transaction.ReferralResponse.mixed.encode true).isOk = true := by decide +kernel
    have fit : ∀ n ∈ Transaction.ReferralResponse.mixed.numerals true, n.Fits := by decide +kernel
    cases encoded : Transaction.ReferralResponse.mixed.encode true with
    | error e =>
      rw [encoded] at size
      cases size
    | ok bytes =>
      have shown := (encode_shown_iff_fits (Config.standard 0 "") 65535 true).2 encoded
      exact ⟨bytes, rfl, fun n member => (shown n member).1.mpr (fit n member)⟩

/-- The first byte of an answer that announces 65536 bytes. -/
def oversized : Message :=
  .ofBodies (Header.blank.toResponse 0) [.transactionResponseFrame
    { Transaction.ResponseFrame.blank .transaction2 with
      totalDataCount := 65536, data := .held [1] }]

theorem encode_oversized : ¬∀ (config : Config) (m sent : Message) (maxSize : Nat) (frame : Bytes),
    m.encode config maxSize = .ok (frame, sent) →
    ∀ p ∈ Chain.placed m.header.isUnicode Header.length (m.bodies.take sent.links),
    ∀ n ∈ p.numerals m.header.isUnicode, n.shown frame = n.value := by
  intro shows
  have cut : (match oversized.encode (Config.standard 0 "") 65535 with
      | .error _ => false
      | .ok (frame, sent) =>
        (Chain.placed oversized.header.isUnicode Header.length
          (oversized.bodies.take sent.links)).any fun p =>
            (p.numerals oversized.header.isUnicode).any fun n =>
              n.value == 65536 && n.shown frame == 0) = true := by decide +kernel
  split at cut
  · cases cut
  next frame sent encoded =>
    obtain ⟨p, among, cut⟩ := List.any_eq_true.mp cut
    obtain ⟨n, member, cut⟩ := List.any_eq_true.mp cut
    simp only [Bool.and_eq_true, beq_iff_eq] at cut
    have same := shows _ _ _ _ _ encoded p among n member
    omega

end Smb1
