import Smb1.Proofs.Message.RoundTrip

/-! How much room a message needs. Each piece of a frame is checked against the room that is left,
and none looks at it otherwise: the frame of a message is the same in every buffer that takes it,
and a buffer that is too short by a byte takes none of it. -/
namespace Smb1

open Wire

@[simp] theorem Wire.Encoder.realAt_fileTime {start : Nat} {unicode : Bool} (millis : Int) :
    (fileTime millis).RealAt start unicode ↔ millis ≤ Time.last := by
  rw [← Time.toFileTime_eq_ok_iff]
  unfold fileTime
  cases shown : Time.toFileTime millis with
  | ok ticks => simp
  | error e => simp [RealAt, ofPiece, Piece.Real]

namespace Transaction

theorem RequestFrame.total_words (f : RequestFrame) : f.words.Total := by
  intro start unicode
  simp only [words, Encoder.realAt_positioned, primaryWords, secondaryWords]
  split
  · cases f.kind <;> simp
  · split <;> simp

theorem RequestFrame.total_bytes (f : RequestFrame) : f.bytes.Total := by
  intro start unicode
  unfold bytes
  by_cases none : f.data.length = 0 <;> cases f.name <;> simp [none]

theorem ResponseFrame.total_words (f : ResponseFrame) : f.words.Total := by
  intro start unicode
  simp only [words, Encoder.realAt_positioned, Encoder.realAt_append, countWords]
  split <;> simp [Encoder.concat_cons, Encoder.concat_nil]

theorem ResponseFrame.total_bytes (f : ResponseFrame) : f.bytes.Total := by
  intro start unicode
  unfold bytes
  by_cases none : f.data.length = 0 <;> simp [none]

end Transaction

namespace Body

variable {start : Nat} {unicode : Bool}

/-- The times that a body writes as file times. -/
def fileTimes : Body → List Int
  | negotiateResponse b => [b.systemTime]
  | createResponse b => [b.creationTime, b.lastAccessTime, b.lastWriteTime, b.changeTime]
  | _ => []

/-- Every time of the body has a file time. -/
def Timely (b : Body) : Prop := ∀ millis ∈ b.fileTimes, millis ≤ Time.last

instance (b : Body) : Decidable b.Timely := inferInstanceAs (Decidable (∀ millis ∈ b.fileTimes, _))

/-- Times are all that a body's words can fail on. -/
theorem realAt_words (b : Body) : b.words.RealAt start unicode ↔ b.Timely := by
  cases b with
  | negotiateRequest b => simp [words, NegotiateRequest.words, Timely, fileTimes]
  | negotiateResponse b => simp [words, NegotiateResponse.words, Timely, fileTimes]
  | sessionSetupRequest b =>
    cases blob : b.securityBlob <;>
      simp [words, SessionSetupRequest.words, blob, Timely, fileTimes]
  | sessionSetupResponse b =>
    cases blob : b.securityBlob <;>
      simp [words, SessionSetupResponse.words, blob, Timely, fileTimes]
  | treeConnectRequest b => simp [words, TreeConnectRequest.words, Timely, fileTimes]
  | treeConnectResponse b =>
    cases rights : b.accessRights <;>
      simp [words, TreeConnectResponse.words, rights, Timely, fileTimes]
  | createRequest b => simp [words, CreateRequest.words, Timely, fileTimes]
  | createResponse b =>
    cases extended : b.extended <;>
      simp [words, CreateResponse.words, extended, Timely, fileTimes, and_assoc]
  | readRequest b => simp [words, ReadRequest.words, Timely, fileTimes]
  | readResponse b => simp [words, ReadResponse.words, Timely, fileTimes]
  | writeRequest b => simp [words, WriteRequest.words, Timely, fileTimes]
  | writeResponse b => simp [words, WriteResponse.words, Timely, fileTimes]
  | closeRequest b => simp [words, CloseRequest.words, Timely, fileTimes]
  | checkDirectoryRequest b => simp [words, CheckDirectoryRequest.words, Timely, fileTimes]
  | transactionRequest f => simp [words, f.total_words start unicode, Timely, fileTimes]
  | transactionResponseFrame f => simp [words, f.total_words start unicode, Timely, fileTimes]
  | transactionResponse r =>
    have real : r.words.RealAt start unicode := r.current.total_words start unicode
    simp [words, real, Timely, fileTimes]
  | logoff | empty command => simp [words, Timely, fileTimes]

theorem total_bytes (b : Body) : b.bytes.Total := by
  intro start unicode
  cases b with
  | negotiateRequest b =>
    apply Encoder.realAt_concat_map
    intro dialect start unicode
    simp
  | negotiateResponse b =>
    cases extended : b.isExtendedSecurity <;> simp [bytes, NegotiateResponse.bytes, extended]
  | sessionSetupRequest b =>
    cases blob : b.securityBlob <;> simp [bytes, SessionSetupRequest.bytes, blob]
  | sessionSetupResponse b =>
    cases blob : b.securityBlob <;> simp [bytes, SessionSetupResponse.bytes, blob]
  | treeConnectRequest b => simp [bytes, TreeConnectRequest.bytes]
  | treeConnectResponse b => simp [bytes, TreeConnectResponse.bytes]
  | createRequest b => simp [bytes, CreateRequest.bytes]
  | readResponse b => simp [bytes, ReadResponse.bytes]
  | writeRequest b => simp [bytes, WriteRequest.bytes]
  | checkDirectoryRequest b => simp [bytes, CheckDirectoryRequest.bytes]
  | transactionRequest f => exact f.total_bytes start unicode
  | transactionResponseFrame f => exact f.total_bytes start unicode
  | transactionResponse r => exact r.current.total_bytes start unicode
  | createResponse b | readRequest b | writeResponse b | closeRequest b | logoff | empty command =>
    exact Encoder.realAt_empty

end Body

namespace Chain

theorem realAt_link {start : Nat} {unicode : Bool} (b : Body) (next : Option Command) :
    (link b next).RealAt start unicode ↔ b.Timely := by
  have padding (n : Nat) : ∀ p ∈ (if n % 2 = 0 then [] else [Piece.zeros 1]), p.Real := by
    split <;> simp [Piece.real_zeros]
  have block (bytes : Bytes) : ∀ p ∈ (if b.isAndX then [Piece.held bytes] else []), p.Real := by
    split <;> simp [Piece.real_held]
  constructor
  · intro real
    apply b.realAt_words.mp
    intro p member
    apply real
    simp only [link, List.mem_append]
    exact .inl (.inl (.inl (.inr member)))
  · intro timely p member
    simp only [link, List.mem_append, List.mem_singleton] at member
    rcases member with ((((rfl | member) | member) | member) | rfl) | member
    · exact Piece.real_held _
    · exact block _ p member
    · exact b.realAt_words.mpr timely p member
    · exact padding _ p member
    · exact Piece.real_held _
    · exact b.total_bytes _ _ p member

theorem realAt_joined {start : Nat} {unicode : Bool} (bodies : List Body) :
    (joined bodies).RealAt start unicode ↔ ∀ b ∈ bodies, b.Timely := by
  induction bodies generalizing start with
  | nil => simp [joined]
  | cons b rest ih =>
    cases rest with
    | nil => simp [joined, realAt_link]
    | cons next rest =>
      simp only [joined, Encoder.realAt_append, realAt_link, ih, List.forall_mem_cons]

end Chain

namespace Message

variable {m : Message} {config : Config} {head : Body} {rest : List Body}

/-- The bodies that go into a frame. -/
def frameBodies (m : Message) (config : Config) : List Body :=
  m.bodies.take (Chain.carried config m.header.isResponse 0 m.bodies)

theorem realAt_frameEncoder {unicode : Bool} :
    (m.frameEncoder config head).RealAt 0 unicode ↔ ∀ b ∈ m.frameBodies config, b.Timely := by
  rw [frameEncoder, Encoder.realAt_append, Chain.encode_eq_joined, Chain.realAt_joined]
  exact and_iff_right (Encoder.realAt_piece _)

theorem encode_of_fits (config : Config) {maxSize : Nat} (bodies : m.bodies = head :: rest)
    (timely : ∀ b ∈ m.frameBodies config, b.Timely)
    (fits : (m.frame config head).length ≤ maxSize) :
    m.encode config maxSize = .ok (m.frame config head, m.sent config head) := by
  rw [encode_eq_put config maxSize bodies,
    Writer.put?_empty_of_fits (realAt_frameEncoder.mpr timely) fits]
  rfl

theorem encode_of_short (config : Config) {maxSize : Nat} (bodies : m.bodies = head :: rest)
    (timely : ∀ b ∈ m.frameBodies config, b.Timely)
    (short : maxSize < (m.frame config head).length) :
    ∃ stop, maxSize < stop ∧ stop ≤ (m.frame config head).length ∧
      m.encode config maxSize = .error (.precondition (.doesNotFit stop maxSize)) := by
  obtain ⟨stop, refused, beyond, within⟩ :=
    Writer.put?_empty_of_short (realAt_frameEncoder.mpr timely) short
  exact ⟨stop, beyond, within, by rw [encode_eq_put config maxSize bodies, refused]; rfl⟩

theorem timely_of_encode {maxSize : Nat} {frame : Bytes} {sent : Message}
    (encoded : m.encode config maxSize = .ok (frame, sent)) :
    ∀ b ∈ m.frameBodies config, b.Timely := by
  obtain ⟨head, rest, w, -, put, -⟩ := put_of_encode encoded
  exact realAt_frameEncoder.mp (Writer.realAt_of_put? put)

/-- Room decides whether a message is sent and never what is sent. It has a frame exactly when all
times in it have a file time; the buffers of at least its length then take that frame, with the same
links, and in all others the first piece that does not fit is refused. -/
theorem encode_gated (config : Config) (m : Message) (headed : m.bodies ≠ []) :
    ((∃ (large : Nat) (frame : Bytes) (sent : Message),
        m.encode config large = .ok (frame, sent)) ↔
      ∀ b ∈ m.frameBodies config, b.Timely) ∧
    ∀ (large : Nat) (frame : Bytes) (sent : Message), m.encode config large = .ok (frame, sent) →
      sent.links = (m.frameBodies config).length ∧
      ∀ maxSize,
        (frame.length ≤ maxSize → m.encode config maxSize = .ok (frame, sent)) ∧
        (maxSize < frame.length → ∃ stop, maxSize < stop ∧ stop ≤ frame.length ∧
          m.encode config maxSize = .error (.precondition (.doesNotFit stop maxSize))) := by
  refine ⟨⟨?_, ?_⟩, ?_⟩
  · rintro ⟨large, frame, sent, encoded⟩
    exact timely_of_encode encoded
  · intro timely
    obtain ⟨head, rest, bodies⟩ := List.exists_cons_of_ne_nil headed
    exact ⟨_, _, _, encode_of_fits config bodies timely (Nat.le_refl _)⟩
  · intro large frame sent encoded
    have timely := timely_of_encode encoded
    obtain ⟨head, rest, bodies, rfl, -, rfl⟩ := encode_eq_ok encoded
    rw [← frame_eq]
    have links : (m.sent config head).links = (m.frameBodies config).length := by
      rw [frameBodies, List.length_take, Nat.min_eq_left (Chain.carried_le ..)]
      rfl
    exact ⟨links, fun maxSize =>
      ⟨encode_of_fits config bodies timely, encode_of_short config bodies timely⟩⟩

/-- Two links in 118 bytes: one byte less takes neither of them. -/
theorem encode_gated_chained :
    chainedLogon.bodies ≠ [] ∧ ∃ (frame : Bytes) (sent : Message),
      frame.length = 118 ∧ sent.links = 2 ∧
      chainedLogon.encode (Config.standard 0 "") 65535 = .ok (frame, sent) ∧
      chainedLogon.encode (Config.standard 0 "") 118 = .ok (frame, sent) ∧
      ∃ stop, 117 < stop ∧ stop ≤ 118 ∧
        chainedLogon.encode (Config.standard 0 "") 117 =
          .error (.precondition (.doesNotFit stop 117)) := by
  have headed : chainedLogon.bodies ≠ [] := List.cons_ne_nil _ _
  have length : (chainedLogon.encode (Config.standard 0 "") 65535).toOption.map (·.1.length) =
      some 118 := by decide +kernel
  have carried : (chainedLogon.frameBodies (Config.standard 0 "")).length = 2 := by decide
  have gate := (encode_gated (Config.standard 0 "") chainedLogon headed).2
  cases wide : chainedLogon.encode (Config.standard 0 "") 65535 with
  | error e =>
    rw [wide] at length
    cases length
  | ok pair =>
    obtain ⟨frame, sent⟩ := pair
    rw [wide] at length
    have whole : frame.length = 118 := Option.some.inj length
    obtain ⟨links, room⟩ := gate 65535 frame sent wide
    rw [whole] at room
    exact ⟨headed, frame, sent, whole, links.trans carried, rfl, (room 118).1 (by decide),
      (room 117).2 (by decide)⟩

end Message

end Smb1
