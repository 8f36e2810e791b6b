import Smb1.Message.Basic
import Smb1.Proofs.Message.Chain
import Smb1.Proofs.Wire.Writing

/-! A message is read back into templates as it was sent: header, links and all fields of each link
that the format shows. -/
namespace Smb1

open Wire

namespace Header

/-- The header as fields written one behind the other. -/
def encoder (h : Header) : Encoder :=
  .piece protocolId ++ (.u8 h.command.code ++ (.u32 h.status ++ (.u8 h.flags.bits ++
    (.u16 h.flags2.bits ++ (.u16 h.pidHigh ++ (.piece h.signature.val ++ (.piece [0, 0] ++
      (.u16 h.tid ++ (.u16 h.pid ++ (.u16 h.uid ++ .u16 h.mid))))))))))

theorem bytesAt_encoder (h : Header) (start : Nat) (unicode : Bool) :
    h.encoder.bytesAt start unicode = h.encode := by
  simp [encoder, encode, encode_u8]

/-- The header as it is read, without the switches that have no meaning. -/
def received (h : Header) : Header := { h with flags2 := .ofBits h.flags2.bits }

theorem received_of_defined {h : Header} (defined : h.flags2.Defined) : h.received = h := by
  unfold received
  rw [Flags.ofBits_bits defined]

theorem isUnicode_received (h : Header) : h.received.isUnicode = h.isUnicode := by
  have kept : (0xFC5F : UInt16) &&& 0x8000 = 0x8000 := by decide
  simp only [isUnicode, received, Flags.contains, Flags.ofBits, HeaderFlags2.unicodeStrings,
    UInt16.and_assoc, kept]

theorem reads_fields (h : Header) {limit start : Nat} {unicode : Bool} :
    Reads limit start unicode h.encoder fields h.received := by
  have flags : h.flags.Defined := by
    have mask : (0xFF : UInt8).toNat = 2 ^ 8 - 1 := rfl
    apply UInt8.toNat_inj.mp
    rw [UInt8.toNat_and, mask, Nat.and_two_pow_sub_one_eq_mod]
    exact Nat.mod_eq_of_lt h.flags.bits.toNat_lt
  refine .bind (.take rfl) fun _ => ?_
  simp only [ne_eq, not_true_eq_false, if_false]
  refine .bind .u8 fun _ => .bind .u32 fun _ => .bind .u8 fun _ => .bind .u16 fun _ => ?_
  refine .bind .u16 fun _ => .bind (.octets h.signature) fun _ => ?_
  refine .bind (.skip (by simp)) fun _ => .bind .u16 fun _ => ?_
  refine .bind .u16 fun _ => .bind .u16 fun _ => .last .u16 ?_
  simp only [Command.ofCode?_code, Flags.ofBits_bits flags]
  rfl

/-- A header comes back in front of whatever follows it. -/
theorem decode_encode_append (h : Header) (rest : Bytes)
    (bound : (h.encode ++ rest).length < Wire.memoryLimit) :
    decode (h.encode ++ rest) = .ok (h.received, rest) := by
  have fields : Reads length 0 false h.encoder fields h.received := h.reads_fields
  have read := fields [] rest rfl (by rw [bytesAt_encoder, length_encode]; exact Nat.le_refl _)
  simp only [bytesAt_encoder, List.nil_append] at read
  have enough : ¬(h.encode ++ rest).length < length := by simp
  have behind : (h.encode ++ rest).drop length = rest := List.drop_left' h.length_encode
  have begins : Reader.start (h.encode ++ rest) false = ⟨h.encode ++ rest, 0, false⟩ := rfl
  unfold decode
  rw [if_neg enough, begins, read bound, behind]
  rfl

end Header

namespace Message

/-- What is on the wire behind a header that was written in front of it. -/
theorem decode_of_chain {m : Message} {t : Body} {templates received : List Body} {header : Header}
    {rest : Bytes} {links : Nat} {reader : Reader} (bodies : m.bodies = t :: templates)
    (bound : (header.encode ++ rest).length < Wire.memoryLimit)
    (command : t.command = header.command)
    (read : Chain.decode header.status m.bodies
      ⟨header.encode ++ rest, Header.length, header.isUnicode⟩ = (received, .ok (links, reader))) :
    m.decode (header.encode ++ rest) = ({ m with
      header := header.received, bodies := received, links, length := reader.position },
        .ok ()) := by
  have same : ¬t.command ≠ header.received.command := not_not_intro command
  have status : header.received.status = header.status := rfl
  have behind : (Reader.start (header.encode ++ rest) header.isUnicode).seek Header.length =
      ⟨header.encode ++ rest, Header.length, header.isUnicode⟩ := rfl
  rw [bodies] at read
  unfold decode
  rw [header.decode_encode_append rest bound]
  simp only [bodies, if_neg same, header.isUnicode_received, status, behind, read]

/-- The header and the links behind it, with the command of the first. -/
def frameEncoder (m : Message) (config : Config) (head : Body) : Encoder :=
  .piece (m.header.forLink head.command).encode ++
    Chain.encode config m.header.isResponse 0 m.bodies

/-- The frame of a message, wherever there is room for it. -/
def frame (m : Message) (config : Config) (head : Body) : Bytes :=
  (m.frameEncoder config head).bytesAt 0 m.header.isUnicode

/-- What the sender knows of its message behind that frame. -/
def sent (m : Message) (config : Config) (head : Body) : Message :=
  { m with
    header := m.header.forLink head.command, length := (m.frame config head).length
    links := Chain.carried config m.header.isResponse 0 m.bodies }

theorem frame_eq (m : Message) (config : Config) (head : Body) :
    m.frame config head = (m.header.forLink head.command).encode ++
      (Chain.encode config m.header.isResponse 0 m.bodies).bytesAt Header.length
        m.header.isUnicode := by
  rw [frame, frameEncoder, Encoder.bytesAt_append, Encoder.bytesAt_piece, Header.length_encode,
    Nat.zero_add]

theorem encode_eq_put (config : Config) (maxSize : Nat) {m : Message} {head : Body}
    {rest : List Body} (bodies : m.bodies = head :: rest) :
    m.encode config maxSize =
      ((Writer.empty maxSize m.header.isUnicode).put? (m.frameEncoder config head)).map fun w =>
        (w.contents, { m.sent config head with length := w.position }) := by
  obtain ⟨header, others, length, signSeq, verification, links⟩ := m
  cases bodies
  change (Writer.put? (.empty maxSize header.isUnicode)
    (.piece (header.forLink head.command).encode ++
      Chain.encode config header.isResponse 0 (head :: rest)) >>= _) = Except.map _ (Writer.put? _
    (.piece (header.forLink head.command).encode ++
      Chain.encode config header.isResponse 0 (head :: rest)))
  cases Writer.put? (.empty maxSize header.isUnicode)
    (.piece (header.forLink head.command).encode ++
      Chain.encode config header.isResponse 0 (head :: rest)) <;> rfl

theorem put_of_encode {m sent : Message} {config : Config} {maxSize : Nat} {frame : Bytes}
    (h : m.encode config maxSize = .ok (frame, sent)) :
    ∃ head rest w, m.bodies = head :: rest ∧
      (Writer.empty maxSize m.header.isUnicode).put? (m.frameEncoder config head) = .ok w ∧
      frame = w.contents ∧ sent = { m.sent config head with length := w.position } := by
  cases bodies : m.bodies with
  | nil => simp [encode, bodies] at h
  | cons head rest =>
    rw [encode_eq_put config maxSize bodies] at h
    cases put : (Writer.empty maxSize m.header.isUnicode).put? (m.frameEncoder config head) with
    | error e =>
      rw [put] at h
      cases h
    | ok w =>
      rw [put] at h
      cases h
      exact ⟨head, rest, w, rfl, put, rfl, rfl⟩

/-- What an encoded message is, and what its sender knows of it. -/
theorem encode_eq_ok {m sent : Message} {config : Config} {maxSize : Nat} {frame : Bytes}
    (h : m.encode config maxSize = .ok (frame, sent)) :
    ∃ head rest, m.bodies = head :: rest ∧
      frame = (m.header.forLink head.command).encode ++
        (Chain.encode config m.header.isResponse 0 m.bodies).bytesAt Header.length
          m.header.isUnicode ∧
      frame.length ≤ maxSize ∧
      sent = { m with
        header := m.header.forLink head.command, length := frame.length
        links := Chain.carried config m.header.isResponse 0 m.bodies } := by
  obtain ⟨head, rest, w, bodies, put, rfl, rfl⟩ := put_of_encode h
  obtain ⟨rfl, fits⟩ := Writer.put?_empty_eq_ok put
  exact ⟨head, rest, bodies, frame_eq m config head, fits, rfl⟩

/-- Behind the header of an encoded message stands its chain. -/
theorem drop_of_encode {m sent : Message} {config : Config} {maxSize : Nat} {frame : Bytes}
    (encoded : m.encode config maxSize = .ok (frame, sent)) :
    frame.drop Header.length =
      (Chain.encode config m.header.isResponse 0 m.bodies).bytesAt Header.length
        m.header.isUnicode := by
  obtain ⟨_, _, -, whole, -⟩ := encode_eq_ok encoded
  rw [whole]
  exact List.drop_left' (Header.length_encode _)

/-- Whatever a message's frame carries comes back into fresh templates: how many links there were,
the header that all of them share, and every field that a link puts on the wire. -/
theorem decode_encode_message (config : Config) (m : Message) (maxSize : Nat)
    (small : maxSize ≤ 65535) (status : m.header.status = 0) (flags : m.header.flags2.Defined)
    (shown : ∀ b ∈ m.bodies, b.Expressible m.header.isUnicode ∧ b.command ≠ .noAndXCommand)
    {frame : Bytes} {sent : Message} (encoded : m.encode config maxSize = .ok (frame, sent)) :
    ∃ received : Message,
      (expecting ((m.bodies.take sent.links).map Body.fresh)).decode frame = (received, .ok ()) ∧
      received.links = sent.links ∧ received.length = frame.length ∧
      m.bodies.head?.map (fun head => m.header.forLink head.command) = some received.header ∧
      received.header = sent.header ∧
      received.bodies.map Body.onWire = (m.bodies.take sent.links).map Body.onWire := by
  obtain ⟨head, rest, bodies, rfl, fits, rfl⟩ := encode_eq_ok encoded
  have chainFits := fits
  rw [List.length_append, Header.length_encode] at chainFits
  have bound : ((m.header.forLink head.command).encode ++
      (Chain.encode config m.header.isResponse 0 m.bodies).bytesAt Header.length
        m.header.isUnicode ++ []).length < Wire.memoryLimit := by
    rw [List.append_nil]
    exact Wire.lt_memoryLimit (Nat.le_trans fits small)
  obtain ⟨received, read, same⟩ := Chain.decode_encode_chain m.bodies (by simp [bodies]) shown 0 []
    (Header.length_encode (m.header.forLink head.command)) (by omega) bound
  obtain ⟨links, count⟩ : ∃ n, Chain.carried config m.header.isResponse 0 m.bodies = n + 1 :=
    ⟨_, (Nat.succ_pred_eq_of_pos (bodies ▸ Chain.carried_pos config m.header.isResponse 0 head
      rest)).symm⟩
  have templates : (m.bodies.take (Chain.carried config m.header.isResponse 0 m.bodies)).map
      Body.fresh = head.fresh :: (rest.take links).map Body.fresh := by
    rw [count, bodies, List.take_succ_cons, List.map_cons]
  have command : head.fresh.command = (m.header.forLink head.command).command :=
    Body.command_fresh (shown head (by simp [bodies])).1
  have zero : (m.header.forLink head.command).status = 0 := status
  rw [List.append_nil] at read bound
  rw [← zero] at read
  have decoded := decode_of_chain (m := expecting _) templates bound command read
  have defined : (m.header.forLink head.command).flags2.Defined := flags
  rw [Header.received_of_defined defined] at decoded
  refine ⟨_, decoded, rfl, ?_, by rw [bodies]; rfl, rfl, same⟩
  rw [List.length_append, Header.length_encode]

/-- Logging on and connecting to a share in one frame. -/
def chainedLogon : Message :=
  ofBodies { Header.blank with flags2 := HeaderFlags2.unicodeStrings }
    [.sessionSetupRequest { SessionSetupRequest.blank with accountName := "me" },
      .treeConnectRequest (.ofPath "\\\\host\\share")]

theorem decode_encode_message_chained :
    ∃ (frame : Bytes) (sent received : Message),
      chainedLogon.encode (Config.standard 0 "") 65535 = .ok (frame, sent) ∧ sent.links = 2 ∧
      (expecting ((chainedLogon.bodies.take 2).map Body.fresh)).decode frame =
        (received, .ok ()) ∧
      received.bodies.map Body.onWire = chainedLogon.bodies.map Body.onWire := by
  have two : (chainedLogon.encode (Config.standard 0 "") 65535).toOption.map (·.2.links) =
      some 2 := by decide +kernel
  have shown : ∀ b ∈ chainedLogon.bodies,
      b.Expressible chainedLogon.header.isUnicode ∧ b.command ≠ .noAndXCommand := by
    intro b member
    simp only [chainedLogon, ofBodies, List.mem_cons, List.not_mem_nil, or_false] at member
    obtain rfl | rfl := member
    · exact ⟨⟨rfl, by decide, by decide, by decide, by decide⟩, nofun⟩
    · exact ⟨⟨by decide, by decide⟩, nofun⟩
  cases encoded : chainedLogon.encode (Config.standard 0 "") 65535 with
  | error e =>
    rw [encoded] at two
    cases two
  | ok pair =>
    obtain ⟨frame, sent⟩ := pair
    rw [encoded] at two
    have links : sent.links = 2 := Option.some.inj two
    obtain ⟨received, decoded, _, _, _, _, same⟩ :=
      decode_encode_message (Config.standard 0 "") chainedLogon 65535 (Nat.le_refl _) rfl rfl shown
        encoded
    rw [links] at decoded same
    exact ⟨frame, sent, received, rfl, links, decoded, same⟩

end Message

end Smb1
