import Smb1.Proofs.Message.Decoding

/-! How far a received message determines what is read from it. Offsets in a message may lead
anywhere in the frame, so what is read can lie behind the length that the last link declares. -/
namespace Smb1

open Wire

namespace Chain

/-- Where the links of a chain end, as far as they can be read. -/
def linkEnds (status : UInt32) : List Body → Reader → List Nat
  | [], _ => []
  | b :: rest, reader =>
    match readLink b reader with
    | (_, .error _) => []
    | (_, .ok (none, reader)) => [reader.position]
    | (_, .ok (some successor, reader)) =>
      reader.position ::
        if status ≠ 0 then [] else linkEnds status rest (reader.seek successor.offset)

/-- A chain whose links all end in the message reads the same in every longer one. -/
theorem Decodes.extended {status : UInt32} {templates received : List Body} {links : Nat}
    {r r' : Reader} (h : Decodes status templates r received links r')
    (ends : ∀ stop ∈ linkEnds status templates r, stop ≤ r.length) (tail : Bytes) :
    Decodes status templates (r.extended tail) received links (r'.extended tail) := by
  induction h with
  | @last b c rest successor r r' link last =>
    rw [linkEnds, link] at ends
    have inside : r'.position ≤ r.length := by cases successor <;> exact ends _ (by simp)
    exact .last ((readLink_extended link).2 inside tail) last
  | @next b c next rest received successor links r mid r' link success waiting others ih =>
    rw [linkEnds, link] at ends
    dsimp only at ends
    rw [if_neg (not_not_intro success)] at ends
    obtain ⟨kept, longer⟩ := readLink_extended link
    have length : (mid.seek successor.offset).length = r.length := by
      rw [kept]
      rfl
    refine .next (longer (ends _ List.mem_cons_self) tail) success waiting
      (ih fun stop member => ?_)
    rw [length]
    exact ends stop (List.mem_cons_of_mem _ member)

end Chain

namespace Header

theorem extends_fields {limit : Nat} {r : Reader} : Extends limit fields r := by
  refine .bind .take fun _ _ => .ite .refused ?_
  refine .bind .u8 fun code _ => .bind .u32 fun _ _ => .bind .u8 fun _ _ => ?_
  refine .bind .u16 fun _ _ => .bind .u16 fun _ _ => .bind .octets fun _ _ => ?_
  refine .bind .skip fun _ _ => .bind .u16 fun _ _ => .bind .u16 fun _ _ => ?_
  refine .bind .u16 fun _ _ => .bind .u16 fun _ _ => ?_
  cases Command.ofCode? code with
  | none => exact .fail
  | some command => exact .pure

theorem decode_append {input rest : Bytes} {header : Header}
    (h : decode input = .ok (header, rest)) (tail : Bytes) :
    decode (input ++ tail) = .ok (header, rest ++ tail) := by
  unfold decode at h ⊢
  split at h
  · cases h
  next enough =>
    obtain ⟨⟨header', r'⟩, read, done⟩ := ok_of_bind h
    cases done
    have longer := extends_fields.longer read (Nat.zero_le _) tail
    have begins : Reader.start (input ++ tail) false =
        (Reader.start input false).extended tail := rfl
    rw [if_neg (by rw [List.length_append]; omega), begins, longer,
      List.drop_append_of_le_length (Nat.not_lt.mp enough)]
    rfl

end Header

namespace Message

/-- Where the links of a frame end, as far as they can be read. -/
def linkEnds (m : Message) (frame : Bytes) : List Nat :=
  match Header.decode frame with
  | .error _ => []
  | .ok (header, _) =>
    Chain.linkEnds header.status m.bodies
      ((Reader.start frame header.isUnicode).seek Header.length)

/-- A message whose links all end in its frame is read the same from every longer one. -/
theorem decode_append {m received : Message} {frame : Bytes}
    (h : m.decode frame = (received, .ok ()))
    (ends : ∀ stop ∈ m.linkEnds frame, stop ≤ frame.length) (tail : Bytes) :
    m.decode (frame ++ tail) = (received, .ok ()) := by
  obtain ⟨header, rest, first, others, bodies, links, reader, head, waiting, command, chain, rfl⟩ :=
    decode_eq_ok_iff.mp h
  rw [linkEnds, head] at ends
  exact decode_eq_ok_iff.mpr ⟨header, rest ++ tail, first, others, bodies, links,
    reader.extended tail, Header.decode_append head tail, waiting, command,
    chain.extended ends tail, rfl⟩

/-- The bytes below the length that a decode reports determine what was decoded, if they can be
decoded by themselves, and only then. Of a chain, no link may end behind that length. -/
theorem decode_determined_iff {m received : Message} {frame : Bytes}
    (decoded : m.decode frame = (received, .ok ())) (inside : received.length ≤ frame.length)
    (ends : ∀ stop ∈ m.linkEnds (frame.take received.length), stop ≤ received.length) :
    (∀ other : Bytes, other.take received.length = frame.take received.length →
      m.decode other = (received, .ok ())) ↔
        (m.decode (frame.take received.length)).2 = .ok () := by
  have length : (frame.take received.length).length = received.length :=
    List.length_take_of_le inside
  constructor
  · intro determined
    rw [determined _ (List.take_of_length_le (Nat.le_of_eq length))]
  · intro alone other same
    cases cut : m.decode (frame.take received.length) with
    | mk found outcome =>
      rw [cut] at alone
      cases alone
      have longer (tail : Bytes) :
          m.decode (frame.take received.length ++ tail) = (found, .ok ()) :=
        decode_append cut (length.symm ▸ ends) tail
      have same_message : found = received := by
        have whole := longer (frame.drop received.length)
        rw [List.take_append_drop, decoded] at whole
        cases whole
        rfl
      have whole := longer (other.drop received.length)
      rwa [← same, List.take_append_drop, same_message] at whole

/-- A read response whose words put four bytes of data right behind the byte count. -/
def readFrame (byteCount : UInt16) (data : Bytes) : Bytes :=
  (Header.ofIds .readAndX 0 0 0 0).encode ++
    [12, 0xFF, 0, 0xDE, 0xDE, 0, 0, 0, 0, 0, 0, 4, 0, 59, 0] ++ List.replicate 10 0 ++
    Word.encode byteCount ++ data

def readTemplate : Message := expecting [.readResponse .blank]

/-- Where the byte count takes the data in, nothing behind it matters. -/
theorem decode_readFrame_counted :
    (readTemplate.decode (readFrame 4 [1, 2, 3, 4] ++ [5])).1.length = 63 ∧
      ∀ other : Bytes, other.take 63 = readFrame 4 [1, 2, 3, 4] →
        readTemplate.decode other = readTemplate.decode (readFrame 4 [1, 2, 3, 4] ++ [5]) := by
  have read := decode_of_isOk readTemplate (readFrame 4 [1, 2, 3, 4] ++ [5])
    (by decide +kernel)
  have length : (readTemplate.decode (readFrame 4 [1, 2, 3, 4] ++ [5])).1.length = 63 := by
    decide +kernel
  have cut : (readFrame 4 [1, 2, 3, 4] ++ [5]).take 63 = readFrame 4 [1, 2, 3, 4] := by
    decide +kernel
  have alone := decode_of_isOk readTemplate (readFrame 4 [1, 2, 3, 4])
    (by decide +kernel)
  have determined := (decode_determined_iff read (by rw [length]; decide +kernel)
    (by rw [length]; decide +kernel)).mpr (by rw [length, cut, alone])
  refine ⟨length, fun other same => ?_⟩
  rw [read]
  exact determined other (by rw [length, cut, same])

/-- Data that the byte count leaves out is read all the same. -/
theorem decode_readFrame_uncounted :
    ¬∀ (m received : Message) (frame other : Bytes), m.decode frame = (received, .ok ()) →
      received.length ≤ frame.length →
      other.take received.length = frame.take received.length →
      m.decode other = (received, .ok ()) := by
  intro determined
  have read := decode_of_isOk readTemplate (readFrame 0 [1, 2, 3, 4])
    (by decide +kernel)
  have other := determined _ _ _ (readFrame 0 [5, 6, 7, 8]) read (by decide +kernel)
    (by decide +kernel)
  have changed : (readTemplate.decode (readFrame 0 [5, 6, 7, 8])).1 ≠
      (readTemplate.decode (readFrame 0 [1, 2, 3, 4])).1 := by decide +kernel
  exact changed (by rw [other])

end Message

end Smb1
