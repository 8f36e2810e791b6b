import Smb1.Proofs.Message.Detached
import Smb1.Security.Signing

/-! What verification accepts is what signing writes. Both hash the message with its number in
place of the signature; a payload that was delivered apart counts where it would stand. -/
namespace Smb1.Signer

open Wire

variable {s : Signer} {digest : Digest} {sequence : UInt32}

@[simp] theorem length_sequenceField (sequence : UInt32) :
    (sequenceField sequence).length = Header.signatureLength := by
  simp only [sequenceField, List.length_append, Word.length_encode]
  rfl

theorem length_replaceField {bytes field : Bytes} {position : Nat}
    (width : field.length = Header.signatureLength)
    (inside : position + Header.signatureLength ≤ bytes.length) :
    (replaceField bytes field position).length = bytes.length := by
  simp only [replaceField, List.length_append, List.length_take, List.length_drop, width]
  omega

/-- Of two replacements in one place the later one counts. -/
theorem replaceField_replaceField {bytes first second : Bytes} {position : Nat}
    (width : first.length = Header.signatureLength)
    (inside : position + Header.signatureLength ≤ bytes.length) :
    replaceField (replaceField bytes first position) second position =
      replaceField bytes second position := by
  have here : (bytes.take position).length = position := List.length_take_of_le (by omega)
  have before : (replaceField bytes first position).take position = bytes.take position := by
    rw [replaceField, List.append_assoc]
    exact List.take_left' here
  have behind : (replaceField bytes first position).drop (position + Header.signatureLength) =
      bytes.drop (position + Header.signatureLength) :=
    List.drop_left' (by rw [List.length_append, here, width])
  rw [replaceField, before, behind, replaceField]

theorem field_replaceField {bytes field : Bytes} {position : Nat}
    (width : field.length = Header.signatureLength) (inside : position ≤ bytes.length) :
    ((replaceField bytes field position).drop position).take Header.signatureLength = field := by
  have here : (bytes.take position).length = position := List.length_take_of_le inside
  rw [replaceField, List.append_assoc, List.drop_left' here, List.take_left' width]

/-- In front of a payload that is delivered apart, the field lies where it lies in the whole. -/
theorem replaceField_append {bytes : Bytes} {position : Nat} (field payload : Bytes)
    (inside : position + Header.signatureLength ≤ bytes.length) :
    replaceField (bytes ++ payload) field position =
      replaceField bytes field position ++ payload := by
  simp only [replaceField, List.append_assoc]
  rw [List.take_append_of_le_length (by omega), List.drop_append_of_le_length inside]

theorem replaceField_header (header : Header) (signature : Octets 8) (rest : Bytes) :
    replaceField (header.encode ++ rest) signature.val Header.signatureOffset =
      { header with signature }.encode ++ rest := by
  generalize before : Header.protocolId ++ [header.command.code] ++ Word.encode header.status ++
    [header.flags.bits] ++ Word.encode header.flags2.bits ++ Word.encode header.pidHigh = first
  generalize behind : [0, 0] ++ Word.encode header.tid ++ Word.encode header.pid ++
    Word.encode header.uid ++ Word.encode header.mid = last
  have parts (signature : Octets 8) :
      { header with signature }.encode = first ++ (signature.val ++ last) := by
    rw [← before, ← behind]
    simp only [Header.encode, List.append_assoc]
  have own : header.encode = first ++ (header.signature.val ++ last) := parts header.signature
  have width : first.length = Header.signatureOffset := by
    rw [← before]
    simp [Header.protocolId, Header.signatureOffset, Word.size]
  have field : (first ++ header.signature.val).length =
      Header.signatureOffset + Header.signatureLength := by
    rw [List.length_append, width, header.signature.property]
    rfl
  have take : (first ++ (header.signature.val ++ last) ++ rest).take Header.signatureOffset =
      first := by
    rw [List.append_assoc]
    exact List.take_left' width
  have drop : (first ++ (header.signature.val ++ last) ++ rest).drop
      (Header.signatureOffset + Header.signatureLength) = last ++ rest := by
    have regroup : first ++ (header.signature.val ++ last) ++ rest =
        (first ++ header.signature.val) ++ (last ++ rest) := by simp only [List.append_assoc]
    rw [regroup]
    exact List.drop_left' field
  rw [own, parts, replaceField, take, drop]
  simp only [List.append_assoc]

/-- The signature that a message gets with a sequence number. -/
def signature (s : Signer) (digest : Digest) (sequence : UInt32) (message : Bytes) : Bytes :=
  (digest (s.key ++
    replaceField message (sequenceField sequence) Header.signatureOffset)).take
      Header.signatureLength

theorem length_signature (s : Signer) (sequence : UInt32)
    (wide : ∀ bytes, Header.signatureLength ≤ (digest bytes).length) (message : Bytes) :
    (s.signature digest sequence message).length = Header.signatureLength :=
  List.length_take_of_le (wide _)

/-- What stands in the field already does not count. -/
theorem signature_replaceField {message field : Bytes}
    (width : field.length = Header.signatureLength) (enough : Header.length ≤ message.length) :
    s.signature digest sequence (replaceField message field Header.signatureOffset) =
      s.signature digest sequence message := by
  unfold signature
  rw [replaceField_replaceField width (Nat.le_trans (by decide) enough)]

theorem sign_message (digest : Digest) (sequence : UInt32) {message : Bytes}
    (unarmed : s.bypass ≠ .armed) (enough : Header.length ≤ message.length) :
    ∃ signed, (s.withSequence sequence).sign digest message 0 message.length = .ok signed ∧
      signed.buffer = replaceField message (s.signature digest sequence message)
        Header.signatureOffset := by
  have room : 0 + message.length ≤ message.length ∧ Header.length ≤ message.length :=
    ⟨Nat.le_of_eq (Nat.zero_add _), enough⟩
  have field : Header.signatureOffset + Header.signatureLength ≤ message.length :=
    Nat.le_trans (by decide) enough
  have all : (replaceField message (sequenceField sequence) Header.signatureOffset).take
      message.length = replaceField message (sequenceField sequence) Header.signatureOffset :=
    List.take_of_length_le (Nat.le_of_eq (length_replaceField (length_sequenceField _) field))
  unfold sign
  rw [if_pos room]
  refine ⟨_, rfl, ?_⟩
  simp only [Nat.zero_add, List.drop_zero, withSequence, all]
  rw [replaceField_replaceField (length_sequenceField _) field]
  cases bypass : s.bypass with
  | armed => exact absurd bypass unarmed
  | disabled | consumed => rfl

/-- Verification compares the signature of the whole message, of which `frame` is the part that was
not delivered apart, with the one in its header. -/
theorem accepts_iff (wide : ∀ bytes, Header.signatureLength ≤ (digest bytes).length)
    {frame : Bytes} {response : Message} (enough : Header.length ≤ frame.length)
    (whole : response.length = (frame ++ detachedPayload response).length) :
    s.accepts digest frame response = true ↔
      s.signature digest response.signSeq (frame ++ detachedPayload response) =
        (frame.drop Header.signatureOffset).take Header.signatureLength := by
  have stop : response.length - (detachedPayload response).length = frame.length := by
    rw [whole, List.length_append, Nat.add_sub_cancel]
  have field : Header.signatureOffset + Header.signatureLength ≤ frame.length :=
    Nat.le_trans (by decide) enough
  have hashed : s.key ++ frame.take Header.signatureOffset ++ sequenceField response.signSeq ++
      (frame.take frame.length).drop bodyOffset ++ detachedPayload response =
        s.key ++ replaceField (frame ++ detachedPayload response)
          (sequenceField response.signSeq) Header.signatureOffset := by
    rw [replaceField_append _ _ field, List.take_length, replaceField, bodyOffset]
    simp only [List.append_assoc]
  have inside : bodyOffset ≤ frame.length ∧ frame.length ≤ frame.length := ⟨field, Nat.le_refl _⟩
  simp only [accepts, stop, if_pos inside, hashed, wide, decide_true, Bool.true_and, beq_iff_eq]
  rfl

/-- A message verifies with the number that it was signed with, whole or without a payload. -/
theorem accepts_signed (wide : ∀ bytes, Header.signatureLength ≤ (digest bytes).length)
    {message frame : Bytes} {response : Message} (enough : Header.length ≤ frame.length)
    (signed : frame ++ detachedPayload response = replaceField message
      (s.signature digest response.signSeq message) Header.signatureOffset)
    (same : message.length = (frame ++ detachedPayload response).length)
    (whole : response.length = message.length) : s.accepts digest frame response = true := by
  have long : Header.length ≤ message.length := by
    rw [same, List.length_append]
    omega
  have width := length_signature s response.signSeq wide message
  have field : (frame.drop Header.signatureOffset).take Header.signatureLength =
      ((frame ++ detachedPayload response).drop Header.signatureOffset).take
        Header.signatureLength := by
    have short : Header.signatureOffset + Header.signatureLength ≤ frame.length :=
      Nat.le_trans (by decide) enough
    rw [List.drop_append_of_le_length (by omega),
      List.take_append_of_le_length (by rw [List.length_drop]; omega)]
  rw [accepts_iff wide enough (whole.trans same), field, signed,
    signature_replaceField width long,
    field_replaceField width (Nat.le_trans (by decide) long)]

/-- Signing an encoded message puts the signature into its header. -/
theorem replaceField_encoded {config : Config} {m sent : Message} {maxSize : Nat} {frame : Bytes}
    (encoded : m.encode config maxSize = .ok (frame, sent)) (signature : Octets 8) :
    replaceField frame signature.val Header.signatureOffset =
      { sent.header with signature }.encode ++ frame.drop Header.length := by
  have behind := Message.drop_of_encode encoded
  obtain ⟨head, rest, -, whole, -, rfl⟩ := Message.encode_eq_ok encoded
  rw [behind, whole]
  exact replaceField_header _ signature _

section

variable (wide : ∀ bytes, Header.signatureLength ≤ (digest bytes).length)

include wide

/-- Signing an encoded message keeps its length. -/
theorem length_replaceField_encoded (s : Signer) (sequence : UInt32) {config : Config}
    {m sent : Message} {maxSize : Nat} {frame : Bytes}
    (encoded : m.encode config maxSize = .ok (frame, sent)) :
    (replaceField frame (s.signature digest sequence frame) Header.signatureOffset).length =
      frame.length :=
  length_replaceField (length_signature s sequence wide frame)
    (Nat.le_trans (by decide) (Message.length_of_encode encoded).1)

theorem verify_decoded (unarmed : s.bypass ≠ .armed) {template received : Message} {frame : Bytes}
    (decoded : template.decode frame = (received, .ok ()))
    (whole : received.length = (frame ++ detachedPayload received).length) :
    (s.verify digest frame { received with signSeq := sequence }).2 = true ↔
      ∃ signed, (s.withSequence sequence).sign digest (frame ++ detachedPayload received) 0
          (frame ++ detachedPayload received).length = .ok signed ∧
        (signed.buffer.drop Header.signatureOffset).take Header.signatureLength =
          (frame.drop Header.signatureOffset).take Header.signatureLength := by
  have enough := Message.length_le_of_decode decoded
  have long : Header.length ≤ (frame ++ detachedPayload received).length := by
    rw [List.length_append]
    omega
  have accepted : s.accepts digest frame { received with signSeq := sequence } = true ↔
      s.signature digest sequence (frame ++ detachedPayload received) =
        (frame.drop Header.signatureOffset).take Header.signatureLength :=
    accepts_iff wide enough whole
  obtain ⟨signed, written, buffer⟩ :=
    sign_message digest sequence unarmed long
  have inside : Header.signatureOffset ≤ (frame ++ detachedPayload received).length :=
    Nat.le_trans (by decide) long
  have field := field_replaceField (length_signature s sequence wide
    (frame ++ detachedPayload received)) inside
  rw [← buffer] at field
  refine accepted.trans ⟨fun same => ⟨signed, written, field.trans same⟩, ?_⟩
  rintro ⟨other, again, same⟩
  cases written.symm.trans again
  exact field.symm.trans same

theorem verify_whole {config : Config} {m sent template received : Message} {maxSize : Nat}
    {frame : Bytes} (small : maxSize ≤ 65535)
    (encoded : m.encode config maxSize = .ok (frame, sent))
    (words : ∀ b ∈ m.bodies.take sent.links, b.wordCount ≤ 255)
    (decoded : template.decode (replaceField frame (s.signature digest sequence frame)
      Header.signatureOffset) = (received, .ok ()))
    (links : received.links = sent.links)
    (counts : ∀ pair ∈ template.bodies.zip (m.bodies.take sent.links), pair.1.Counts pair.2)
    (held : detachedPayload received = []) :
    (s.verify digest (replaceField frame (s.signature digest sequence frame)
      Header.signatureOffset) { received with signSeq := sequence }).2 = true := by
  have width := length_signature s sequence wide frame
  have enough := (Message.length_of_encode encoded).1
  have resigned := replaceField_encoded encoded ⟨_, width⟩
  have length := length_replaceField_encoded wide s sequence encoded
  have same : received.length = frame.length :=
    Message.length_of_decode encoded small ⟨_, width⟩ words counts (resigned ▸ decoded) links
  have all : replaceField frame (s.signature digest sequence frame) Header.signatureOffset ++
      detachedPayload received =
        replaceField frame (s.signature digest sequence frame) Header.signatureOffset := by
    rw [held, List.append_nil]
  have accepted : s.accepts digest _ { received with signSeq := sequence } = true :=
    accepts_signed wide (length ▸ enough) all (by rw [← length]; exact congrArg _ all.symm) same
  exact accepted

theorem verify_detached {config : Config} {m sent template : Message} {maxSize : Nat}
    {frame : Bytes} {read : ReadResponse} (small : maxSize ≤ 65535)
    (encoded : m.encode config maxSize = .ok (frame, sent))
    (carried : m.bodies.take sent.links = [.readResponse read])
    (waiting : template.bodies = [.readResponse (.ofDetached read.data)]) :
    ∃ received, template.decode ((replaceField frame (s.signature digest sequence frame)
          Header.signatureOffset).take (frame.length - read.data.length)) = (received, .ok ()) ∧
      received.links = 1 ∧ detachedPayload received = read.data ∧
      (s.verify digest ((replaceField frame (s.signature digest sequence frame)
          Header.signatureOffset).take (frame.length - read.data.length))
        { received with signSeq := sequence }).2 = true := by
  have width := length_signature s sequence wide frame
  have resigned := replaceField_encoded encoded ⟨_, width⟩
  have length := length_replaceField_encoded wide s sequence encoded
  obtain ⟨command, split⟩ := Message.headFrame_of_encode encoded carried ⟨_, width⟩
  have command : ({ sent.header with signature := ⟨_, width⟩ } : Header).command = .readAndX :=
    command
  rw [← resigned] at split
  generalize ({ sent.header with signature := ⟨_, width⟩ } : Header) = header at split command
  have size : (Message.headFrame header read ++ read.data).length = frame.length := by
    rw [← split, length]
  have head : (replaceField frame (s.signature digest sequence frame)
      Header.signatureOffset).take (frame.length - read.data.length) =
        Message.headFrame header read := by
    rw [split]
    exact List.take_left' (by rw [← size, List.length_append, Nat.add_sub_cancel])
  obtain ⟨received, found, decoded, links, longer, bodies, data, detached⟩ :=
    Message.decode_headFrame waiting command (by
      rw [size]
      exact Nat.le_trans (Message.length_of_encode encoded).2 small)
  have payload : detachedPayload received = read.data := by
    simp only [detachedPayload, bodies, detached, if_true, data]
  rw [head]
  have all : Message.headFrame header read ++ detachedPayload received =
      replaceField frame (s.signature digest sequence frame) Header.signatureOffset := by
    rw [payload, split]
  have accepted : s.accepts digest _ { received with signSeq := sequence } = true :=
    accepts_signed wide (Message.length_le_of_decode decoded) all
      (by rw [← length]; exact congrArg _ all.symm) (longer.trans size)
  exact ⟨received, decoded, links, payload, accepted⟩

end

/-- A response is accepted exactly when signing it again gives the signature that it carries, if the
frame is all of it or the payload of a read response at its head is what the frame lacks. What was
encoded and signed is accepted in whatever templates it is received whole with all its links, if
these count words as the writer did and no link has more words than a byte counts; and a read
response that goes alone is received and accepted without its data, too. -/
theorem verify_iff_sign (s : Signer) (digest : Digest)
    (wide : ∀ bytes, Header.signatureLength ≤ (digest bytes).length) (unarmed : s.bypass ≠ .armed)
    (sequence : UInt32) :
    (∀ (template received : Message) (frame : Bytes),
      template.decode frame = (received, .ok ()) →
      received.length = (frame ++ detachedPayload received).length →
      ((s.verify digest frame { received with signSeq := sequence }).2 = true ↔
        ∃ signed, (s.withSequence sequence).sign digest (frame ++ detachedPayload received) 0
            (frame ++ detachedPayload received).length = .ok signed ∧
          (signed.buffer.drop Header.signatureOffset).take Header.signatureLength =
            (frame.drop Header.signatureOffset).take Header.signatureLength)) ∧
    ∀ (config : Config) (m sent : Message) (maxSize : Nat) (frame : Bytes), maxSize ≤ 65535 →
      m.encode config maxSize = .ok (frame, sent) →
      ∃ signed, (s.withSequence sequence).sign digest frame 0 frame.length = .ok signed ∧
        (∀ template received : Message, template.decode signed.buffer = (received, .ok ()) →
          received.links = sent.links →
          (∀ pair ∈ template.bodies.zip (m.bodies.take sent.links), pair.1.Counts pair.2) →
          (∀ b ∈ m.bodies.take sent.links, b.wordCount ≤ 255) → detachedPayload received = [] →
          (s.verify digest signed.buffer { received with signSeq := sequence }).2 = true) ∧
        ∀ (template : Message) (read : ReadResponse),
          m.bodies.take sent.links = [.readResponse read] →
          template.bodies = [.readResponse (.ofDetached read.data)] →
          ∃ received, template.decode (signed.buffer.take (frame.length - read.data.length)) =
              (received, .ok ()) ∧
            received.links = 1 ∧ detachedPayload received = read.data ∧
            (s.verify digest (signed.buffer.take (frame.length - read.data.length))
              { received with signSeq := sequence }).2 = true := by
  refine ⟨fun _ _ _ decoded whole => verify_decoded wide unarmed decoded whole, ?_⟩
  intro config m sent maxSize frame small encoded
  obtain ⟨signed, written, buffer⟩ :=
    sign_message digest sequence unarmed (Message.length_of_encode encoded).1
  refine ⟨signed, written, ?_, ?_⟩
  · intro template received decoded links counts words held
    rw [buffer] at decoded ⊢
    exact verify_whole wide small encoded words decoded links counts held
  · intro template read carried waiting
    rw [buffer]
    exact verify_detached wide small encoded carried waiting

/-- A digest that shows how much was hashed. -/
def lengthDigest : Digest := fun bytes => Word.encode (UInt64.ofNat bytes.length)

theorem wide_lengthDigest (bytes : Bytes) :
    Header.signatureLength ≤ (lengthDigest bytes).length := by
  rw [lengthDigest, Word.length_encode]
  exact Nat.le_refl _

/-- A read response that carries three bytes. -/
def threeRead : Message :=
  .ofBodies (Header.blank.toResponse 0) [.readResponse (.ofData [1, 2, 3])]

theorem verify_iff_sign_threeRead :
    ∃ (frame : Bytes) (sent received : Message) (signed : Signed),
      threeRead.encode (Config.standard 0 "") 65535 = .ok (frame, sent) ∧
      ((ofKey [1]).withSequence 7).sign lengthDigest frame 0 frame.length = .ok signed ∧
      (Message.expecting [.readResponse (.ofDetached [1, 2, 3])]).decode
        (signed.buffer.take (frame.length - 3)) = (received, .ok ()) ∧
      detachedPayload received = [1, 2, 3] ∧
      ((ofKey [1]).verify lengthDigest (signed.buffer.take (frame.length - 3))
        { received with signSeq := 7 }).2 = true := by
  have links : (threeRead.encode (Config.standard 0 "") 65535).toOption.map (·.2.links) =
      some 1 := by
    decide +kernel
  cases encoded : threeRead.encode (Config.standard 0 "") 65535 with
  | error e =>
    rw [encoded] at links
    cases links
  | ok pair =>
    obtain ⟨frame, sent⟩ := pair
    rw [encoded] at links
    have one : sent.links = 1 := Option.some.inj links
    have single : threeRead.bodies.take sent.links = [.readResponse (.ofData [1, 2, 3])] := by
      rw [one]
      rfl
    obtain ⟨signed, written, -, apart⟩ := (verify_iff_sign (ofKey [1]) lengthDigest
      wide_lengthDigest nofun 7).2 (Config.standard 0 "") threeRead sent 65535 frame (Nat.le_refl _)
      encoded
    obtain ⟨received, decoded, -, payload, accepted⟩ :=
      apart (.expecting [.readResponse (.ofDetached [1, 2, 3])]) _ single rfl
    exact ⟨frame, sent, received, signed, rfl, written, decoded, payload, accepted⟩

/-- A response of one frame with so many setup words that its word count wraps around to zero. -/
def wrapped : Message :=
  .ofBodies (Header.blank.toResponse 0) [.transactionResponseFrame
    { Transaction.ResponseFrame.blank .transaction with setup := List.replicate 246 0 }]

def wrappedTemplate : Message :=
  .expecting [.transactionResponseFrame (.blank .transaction)]

theorem verify_wrapped : ¬∀ (s : Signer) (digest : Digest) (sequence : UInt32) (config : Config)
    (m sent template received : Message) (maxSize : Nat) (frame : Bytes) (signed : Signed),
    (∀ bytes, Header.signatureLength ≤ (digest bytes).length) → s.bypass ≠ .armed →
    maxSize ≤ 65535 → m.header.isResponse = true → m.encode config maxSize = .ok (frame, sent) →
    (s.withSequence sequence).sign digest frame 0 frame.length = .ok signed →
    template.decode signed.buffer = (received, .ok ()) → received.links = sent.links →
    detachedPayload received = [] →
    (s.verify digest signed.buffer { received with signSeq := sequence }).2 = true := by
  intro verifies
  have rejected : (match wrapped.encode (Config.standard 0 "") 65535 with
      | .error _ => false
      | .ok (frame, sent) =>
        match ((ofKey []).withSequence 0).sign lengthDigest frame 0 frame.length with
        | .error _ => false
        | .ok signed =>
          match wrappedTemplate.decode signed.buffer with
          | (_, .error _) => false
          | (received, .ok ()) =>
            received.links == sent.links && detachedPayload received == [] &&
              !((ofKey []).verify lengthDigest signed.buffer { received with signSeq := 0 }).2) =
        true := by decide +kernel
  split at rejected
  · cases rejected
  next frame sent encoded =>
    split at rejected
    · cases rejected
    next signed written =>
      split at rejected
      · cases rejected
      next received decoded =>
        simp only [Bool.and_eq_true, beq_iff_eq, Bool.not_eq_true'] at rejected
        obtain ⟨⟨links, held⟩, failed⟩ := rejected
        rw [verifies (ofKey []) lengthDigest 0 _ _ _ _ _ 65535 _ _ wide_lengthDigest nofun
          (Nat.le_refl _) rfl encoded written decoded links held] at failed
        cases failed

/-- Only the payload of a read response at the head is looked for outside the frame. A message that
lacks another one is longer than its frame, and rejected. -/
theorem accepts_of_longer {s : Signer} {digest : Digest} {frame : Bytes} {received : Message}
    (held : detachedPayload received = []) (longer : frame.length < received.length) :
    s.accepts digest frame received = false := by
  simp only [accepts, held, List.length_nil, Nat.sub_zero]
  exact if_neg fun room => Nat.not_le.mpr longer room.2

/-- A read response that carries three bytes, behind another link. -/
def threeReadBehind : Message :=
  .ofBodies (Header.blank.toResponse 0)
    [.treeConnectResponse .blank, .readResponse (.ofData [1, 2, 3])]

example : (match threeReadBehind.encode (Config.standard 0 "") 65535 with
    | .error _ => false
    | .ok (frame, sent) =>
      match ((ofKey []).withSequence 0).sign lengthDigest frame 0 frame.length with
      | .error _ => false
      | .ok signed =>
        let short := signed.buffer.take (frame.length - 3)
        match (Message.expecting [.treeConnectResponse .blank,
            .readResponse (.ofDetached [1, 2, 3])]).decode short with
        | (_, .error _) => false
        | (received, .ok ()) =>
          received.links == sent.links && received.length == frame.length &&
            !((ofKey []).verify lengthDigest short { received with signSeq := 0 }).2) = true := by
  decide +kernel

end Smb1.Signer
