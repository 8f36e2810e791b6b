import Smb1.Proofs.Message.Body
import Smb1.Proofs.Message.Decoding
import Smb1.Proofs.Transaction.Rejection

/-! Links without words, read into a response that is being collected. Without bytes they are passed
over. With bytes, the words of the frame before are taken for theirs. -/
namespace Smb1

open Wire Transaction

namespace Transaction

namespace ResponseFrame

/-- Where a payload lay in the message of the frame, and how long it was. -/
def place (f : ResponseFrame) : Section → Nat × Nat
  | .parameter => (f.received.parameters, f.parameters.length)
  | .data => (f.received.data, f.data.length)

/-- What lies in a message where a payload of the frame lay in its own. -/
def found (f : ResponseFrame) (reader : Reader) (part : Section) : Bytes :=
  (reader.buffer.drop (f.place part).1).take (f.place part).2

/-- A message reaches as far as the payloads of the frame did. -/
def LiesIn (f : ResponseFrame) (reader : Reader) : Prop :=
  ∀ part, (f.place part).2 = 0 ∨ (f.place part).1 + (f.place part).2 ≤ reader.length

instance (f : ResponseFrame) (reader : Reader) : Decidable (f.LiesIn reader) :=
  decidable_of_iff (((f.place .parameter).2 = 0 ∨
      (f.place .parameter).1 + (f.place .parameter).2 ≤ reader.length) ∧
      ((f.place .data).2 = 0 ∨ (f.place .data).1 + (f.place .data).2 ≤ reader.length))
    ⟨fun both part => by cases part; exacts [both.1, both.2], fun all => ⟨all _, all _⟩⟩

/-- The words of the frame with what a message holds in place of its payloads. -/
def recast (f : ResponseFrame) (reader : Reader) : ResponseFrame :=
  { f with parameters := .held (f.found reader .parameter), data := .held (f.found reader .data) }

end ResponseFrame

theorem payloadAt_eq_ok {reader : Reader} {offset count : Nat}
    (memory : reader.length < memoryLimit) (inside : count = 0 ∨ offset + count ≤ reader.length) :
    payloadAt reader offset count = .ok ((reader.buffer.drop offset).take count) := by
  unfold payloadAt
  split
  next none => rw [none, List.take_zero]
  next some =>
    have within := inside.resolve_left some
    have small : ¬Position.limit ≤ offset + count :=
      Nat.not_le.mpr (Nat.lt_of_le_of_lt within (Nat.lt_trans memory (by decide)))
    simp only [Reader.slice, if_neg small, if_neg (Nat.not_lt.mpr within)]

theorem inside_of_payloadAt {reader : Reader} {offset count : Nat} {bytes : Bytes}
    (picked : payloadAt reader offset count = .ok bytes) :
    count = 0 ∨ offset + count ≤ reader.length := by
  by_contra outside
  obtain ⟨some, behind⟩ := not_or.mp outside
  simp only [payloadAt, if_neg some, Reader.slice, if_pos (Nat.not_le.mp behind)] at picked
  split at picked
  next sliced => split at sliced <;> cases sliced
  next => cases picked

namespace Reassembly

variable {r : Reassembly} {reader : Reader}

/-- Nothing that can be seen of a response is different. -/
structure Unmoved (r r' : Reassembly) : Prop where
  frames : r'.frames = r.frames
  setup : r'.setup = r.setup
  stream : r'.stream = r.stream
  isComplete : r'.isComplete = r.isComplete
  result : r'.result = r.result

theorem unmoved_current (r : Reassembly) (current : ResponseFrame) :
    Unmoved r { r with current } := ⟨rfl, rfl, stream_current r current, rfl, rfl⟩

theorem readBytes_recast (memory : reader.length < memoryLimit) (lies : r.current.LiesIn reader) :
    (r.readBytes reader).1 =
      (({ r with current := r.current.recast reader } : Reassembly).accept
        (r.current.recast reader) reader.unicode).1 := by
  have parameters := payloadAt_eq_ok memory (lies .parameter)
  have data := payloadAt_eq_ok memory (lies .data)
  simp only [ResponseFrame.place] at parameters data
  simp only [readBytes, parameters, data]
  rfl

/-- Payloads that are not there are not taken in. -/
theorem readBytes_outside (outside : ¬r.current.LiesIn reader) :
    ∃ current, (r.readBytes reader).1 = { r with current } := by
  unfold readBytes
  dsimp only
  cases parameters : payloadAt reader r.current.received.parameters r.current.parameters.length with
  | error e => exact ⟨r.current, rfl⟩
  | ok first =>
    dsimp only
    cases data : payloadAt reader r.current.received.data r.current.data.length with
    | error e => exact ⟨_, rfl⟩
    | ok second =>
      apply absurd _ outside
      intro part
      cases part
      · exact inside_of_payloadAt parameters
      · exact inside_of_payloadAt data

/-- Whether bytes that come without words leave a response as it was. -/
theorem unmoved_readBytes_iff (memory : reader.length < memoryLimit) :
    Unmoved r (r.readBytes reader).1 ↔ r.isComplete = true ∨ ¬r.current.LiesIn reader := by
  by_cases lies : r.current.LiesIn reader
  · rw [readBytes_recast memory lies]
    cases complete : r.isComplete with
    | true =>
      have kept := accept_complete (r := { r with current := r.current.recast reader }) complete
        (r.current.recast reader) reader.unicode
      rw [kept]
      exact iff_of_true (unmoved_current r _) (.inl rfl)
    | false =>
      -- the number of frames tells that one was taken in, whatever came of it
      have counted := frames_accept (r := { r with current := r.current.recast reader }) complete
        (r.current.recast reader) reader.unicode
      apply iff_of_false _ (by simp [lies])
      intro unmoved
      exact Nat.succ_ne_self r.frames (counted.symm.trans unmoved.frames)
  · obtain ⟨current, kept⟩ := readBytes_outside lies
    rw [kept]
    exact iff_of_true (unmoved_current r current) (.inr lies)

end Reassembly
end Transaction

/-- A link without words announces bytes. -/
def Wire.Reader.CountsBytes (reader : Reader) : Prop :=
  reader.position + 3 ≤ reader.length ∧
    (Word.decode (reader.buffer.drop (reader.position + 1)) : UInt16) ≠ 0

instance (reader : Reader) : Decidable reader.CountsBytes :=
  inferInstanceAs (Decidable (_ ∧ _))

namespace Chain

variable {r : Reassembly} {reader : Reader}

/-- The cursor moves behind the word count and no further. -/
theorem readLinkWords_wordless (r : Reassembly) (memory : reader.length < memoryLimit)
    (inside : reader.position < reader.length) :
    readLinkWords (.transactionResponse r) reader.position 0 (reader.skip 1) =
      (.transactionResponse r, .ok (reader.skip 1)) := by
  have alone : (Body.transactionResponse r).isAndX = false := (Body.isAndX_transaction r.kind).1
  have near : reader.position + 1 < Position.limit :=
    Nat.lt_of_le_of_lt inside (Nat.lt_trans memory (by decide))
  have moved : (reader.skip 1).seekFrom reader.position 1 = .ok (reader.skip 1) :=
    Reader.seekFrom_eq_ok_iff.mpr ⟨rfl, near⟩
  simp only [readLinkWords, Body.wordCountAdjustment_zero, alone]
  exact congrArg (Prod.mk _) moved

theorem readLinkBytes_wordless (r : Reassembly) (memory : reader.length < memoryLimit)
    (inside : reader.position < reader.length) :
    (readLinkBytes (.transactionResponse r) 0 (reader.skip 1)).1 = .transactionResponse
      (if reader.CountsBytes then (r.readBytes (reader.skip 3)).1 else r) := by
  by_cases room : reader.position + 3 ≤ reader.length
  · have read : Decoder.u16 (reader.skip 1) =
        .ok (Word.decode (reader.buffer.drop (reader.position + 1)), reader.skip 3) :=
      Decoder.word_eq_ok room
    simp only [readLinkBytes, read]
    by_cases none : (Word.decode (reader.buffer.drop (reader.position + 1)) : UInt16) = 0
    · have passed : ¬reader.CountsBytes := fun counts => counts.2 none
      simp [passed, none]
    · have counts : reader.CountsBytes := ⟨room, none⟩
      have some : (Word.decode (reader.buffer.drop (reader.position + 1)) : UInt16).toNat ≠ 0 :=
        fun zero => none (UInt16.toNat_inj.mp zero)
      rw [if_pos counts, if_pos (.inr some)]
      rfl
  · have passed : ¬reader.CountsBytes := fun counts => room counts.1
    simp only [readLinkBytes, if_neg passed]
    cases read : Decoder.u16 (reader.skip 1) with
    | error e => rfl
    | ok got =>
      -- a number that was read lies in the message, and this one would end behind it
      have lands : Lands 0 (reader.skip 1) (Decoder.u16 (reader.skip 1)) := Safe.u16 memory inside
      rw [read] at lands
      have within := lands.within.2
      rw [Spans.u16.moved read] at within
      exact absurd within room

/-- A link without words is left to its bytes, if it has any. -/
theorem readLink_wordless (r : Reassembly) (memory : reader.length < memoryLimit)
    (wordless : reader.buffer[reader.position]? = some 0) :
    (readLink (.transactionResponse r) reader).1 = .transactionResponse
      (if reader.CountsBytes then (r.readBytes (reader.skip 3)).1 else r) := by
  obtain ⟨inside, first⟩ := List.getElem?_eq_some_iff.mp wordless
  have alone : (Body.transactionResponse r).isAndX = false := (Body.isAndX_transaction r.kind).1
  have count : Decoder.u8 reader = .ok (0, reader.skip 1) := by
    have byte : (Word.decode reader.rest : UInt8) = 0 := by
      rw [Reader.rest, List.drop_eq_getElem_cons inside, first]
      rfl
    rw [Decoder.u8, Decoder.word_eq_ok inside, byte]
    rfl
  have head : readLinkHead (.transactionResponse r) reader = .ok ((0, none), reader.skip 1) := by
    rw [readLinkHead, Decoder.bind_of_ok _ count, alone]
    rfl
  simp only [readLink, head, readLinkWords_wordless r memory inside]
  exact readLinkBytes_wordless r memory inside

end Chain

namespace Message

/-- What a link without words does to the response it is read into. Without bytes it does nothing.
With bytes it still does nothing that can be seen if the response is complete, or if the message is
too short for the payloads of the frame that was read before. Otherwise that frame is taken in
again, with what the message holds in the places of its payloads. -/
theorem decode_wordless {m : Message} {frame : Bytes} {index : Nat} {r : Reassembly}
    {reader : Reader} (memory : frame.length < memoryLimit)
    (waiting : m.bodies[index]? = some (.transactionResponse r))
    (link : m.linkAt? frame index = some reader)
    (wordless : reader.buffer[reader.position]? = some 0) :
    ∃ r', (m.decode frame).1.bodies[index]? = some (.transactionResponse r') ∧
      (Reassembly.Unmoved r r' ↔
        ¬reader.CountsBytes ∨ r.isComplete = true ∨ ¬r.current.LiesIn reader) ∧
      (¬reader.CountsBytes → r' = r) ∧
      (¬Reassembly.Unmoved r r' → r'.frames = r.frames + 1 ∧
        r' = (({ r with current := r.current.recast reader } : Reassembly).accept
          (r.current.recast reader) reader.unicode).1) := by
  have memory : reader.length < memoryLimit := by rwa [length_of_linkAt? link]
  have read := getElem?_decode frame waiting
  rw [link, Option.elim_some, Chain.readLink_wordless r memory wordless] at read
  refine ⟨_, read, ?_⟩
  -- without bytes nothing is read, and with bytes the words of the frame before decide
  by_cases counts : reader.CountsBytes
  · have unmoved : Reassembly.Unmoved r (r.readBytes (reader.skip 3)).1 ↔
        r.isComplete = true ∨ ¬r.current.LiesIn reader :=
      Reassembly.unmoved_readBytes_iff memory
    simp only [if_pos counts]
    refine ⟨unmoved.trans (by simp [counts]), fun none => absurd counts none, ?_⟩
    intro moved
    obtain ⟨unfinished, lies⟩ := not_or.mp (mt unmoved.mpr moved)
    have taken : (r.readBytes (reader.skip 3)).1 = _ :=
      Reassembly.readBytes_recast memory (Decidable.of_not_not lies)
    rw [taken]
    exact ⟨Reassembly.frames_accept (Bool.not_eq_true _ ▸ unfinished) _ _, rfl⟩
  · have same : Reassembly.Unmoved r r := Reassembly.unmoved_current r r.current
    rw [if_neg counts]
    exact ⟨iff_of_true same (.inl counts), fun _ => rfl, fun moved => absurd same moved⟩

/-- A transaction frame that has bytes but no words. -/
def wordlessFrame (bytes : Bytes) : Bytes :=
  (Header.ofIds .transaction 0 0 0 0).encode ++
    ([0] ++ Word.encode (UInt16.ofNat bytes.length) ++ bytes)

/-- A pipe response with four of its six bytes, from behind the end of the frames below. -/
def halfRead : Reassembly :=
  { Reassembly.start (.pipe []) with
    data := ⟨6, [(0, [1, 2, 3, 4])]⟩
    frames := 1
    current := { ResponseFrame.blank .transaction with
      totalDataCount := 6
      data := .held [1, 2, 3, 4]
      received := ⟨0, 56⟩ } }

theorem decode_wordless_short :
    ∃ r', ((expecting [.transactionResponse halfRead]).decode (wordlessFrame [7])).1.bodies[0]? =
        some (.transactionResponse r') ∧ Reassembly.Unmoved halfRead r' := by
  have waiting : (expecting [.transactionResponse halfRead]).bodies[0]? =
      some (.transactionResponse halfRead) := rfl
  have link : (expecting [.transactionResponse halfRead]).linkAt? (wordlessFrame [7]) 0 =
      some ⟨wordlessFrame [7], 32, false⟩ := by decide
  obtain ⟨r', read, unmoved, -⟩ := decode_wordless (by decide) waiting link (by decide)
  exact ⟨r', read, unmoved.mpr (.inr (.inr (by decide)))⟩

/-- One byte without words is the whole answer of a transaction that none has been received of. -/
theorem decode_wordless_completes :
    ∃ m r r' reader, m = expecting [.transactionResponse r] ∧ Reassembly.Reached 0 r ∧
      m.linkAt? (wordlessFrame [7]) 0 = some reader ∧
      reader.buffer[reader.position]? = some 0 ∧
      (m.decode (wordlessFrame [7])).1.bodies = [.transactionResponse r'] ∧
      (m.decode (wordlessFrame [7])).2 = .ok () ∧
      r.frames = 0 ∧ r'.frames = 1 ∧ r.isComplete = false ∧ r'.isComplete = true := by
  let r := Reassembly.start (.pipe [])
  let reader : Reader := ⟨wordlessFrame [7], 32, false⟩
  refine ⟨expecting [.transactionResponse r], r,
    (r.accept (ResponseFrame.recast (.blank .transaction) reader) false).1, reader, rfl,
    .start _, ?_⟩
  decide +kernel

end Message
end Smb1
