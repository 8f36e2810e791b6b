import Smb1.Proofs.Security.Signing
import Smb1.Proofs.Session.Acceptance

/-! What one exchange writes and what it takes in. Its request goes out in one frame, which carries
the first of its bodies; the next frame of the server answers, and is read into the templates. -/
namespace Smb1

open Std.Do
open Wire

set_option mvcgen.warning false

/-- A frame as it stands in the stream. -/
def Netbios.packet (frame : Bytes) : Bytes := header sessionMessage frame.length ++ frame

/-- A message was read from a frame: the header names the first template, and behind it lies a chain
of as many links as the message says, each of them read into the template in its place. -/
def Message.TakenFrom (received : Message) (templates : List Body) (frame : Bytes) : Prop :=
  ∃ rest reader, Header.decode frame = .ok (received.header, rest) ∧
    templates.head?.map Body.command = some received.header.command ∧
    Chain.Decodes received.header.status templates
      ((Reader.start frame received.header.isUnicode).seek Header.length)
      received.bodies received.links reader

/-- Signing replaces the signature of a message and nothing else. -/
theorem Signer.buffer_of_sign {s : Signer} {message : Bytes} {signed : Signed}
    (h : s.sign Security.Md5.digest message 0 message.length = .ok signed) :
    ∃ signature : Octets 8,
      signed.buffer = replaceField message signature.val Header.signatureOffset := by
  unfold sign at h
  split at h
  next room =>
    have field : Header.signatureOffset + Header.signatureLength ≤ message.length :=
      Nat.le_trans (by decide) room.2
    have width (bytes : Bytes) :
        ((Security.Md5.digest bytes).take Header.signatureLength).length = 8 := by
      simp [Header.signatureLength]
    cases h
    simp only [Nat.zero_add, replaceField_replaceField (length_sequenceField _) field]
    cases s.bypass with
    | armed => exact ⟨⟨bypassSignature, rfl⟩, rfl⟩
    | disabled | consumed => exact ⟨⟨_, width _⟩, rfl⟩
  next => cases h

namespace Connection

open Netbios Session

/-- A write appends what there is room for. -/
theorem write_spec (bytes output input : Bytes) :
    ⦃fun c => ⌜c.output = output ∧ c.input = input⌝⦄ write bytes
    ⦃post⟨fun _ c => ⌜c.output = output ++ bytes ∧ c.input = input⌝,
      fun _ c => ⌜∃ written, written <+: bytes ∧ c.output = output ++ written⌝⟩⦄ := by
  rw [triple_iff]
  rintro c ⟨rfl, rfl⟩
  unfold write
  cases c.room with
  | none => simp [Connection.output]
  | some room =>
    by_cases fits : bytes.length ≤ room
    · simp [Connection.output, fits, List.take_of_length_le fits]
    · simp only [if_neg fits]
      exact ⟨bytes.take room, List.take_prefix _ _, by simp [Connection.output]⟩

/-- A frame is written behind its header, as far as there is room. -/
theorem send_spec (frame output input : Bytes) :
    ⦃fun c => ⌜c.output = output ∧ c.input = input⌝⦄ send frame
    ⦃post⟨fun _ c => ⌜c.output = output ++ packet frame ∧ c.input = input⌝,
      fun _ c => ⌜∃ written, written <+: packet frame ∧ c.output = output ++ written⌝⟩⦄ := by
  have opened := write_spec (header sessionMessage frame.length) output input
  have closed := write_spec frame (output ++ header sessionMessage frame.length) input
  mvcgen [send, opened, closed]
  case vc1.isTrue kept =>
    exact ⟨[], List.nil_prefix, by rw [List.append_nil]; exact kept.1⟩
  case vc4.isFalse.post.success.post.success kept =>
    exact ⟨kept.1.trans (List.append_assoc ..), kept.2⟩
  case vc5.isFalse.post.success.post.except.handle =>
    rintro ⟨written, part, whole⟩
    exact ⟨header sessionMessage frame.length ++ written,
      (List.prefix_append_right_inj _).mpr part, whole.trans (List.append_assoc ..)⟩
  case vc6.isFalse.post.except.handle =>
    rintro ⟨written, part, whole⟩
    exact ⟨written, part.trans (List.prefix_append _ _), whole⟩

end Connection

namespace Session

/-- A frame holds some bodies, one behind the other, and nothing else. -/
def Carries (frame : Bytes) (bodies : List Body) : Prop :=
  ∃ (header : Header) (head : Body) (rest : List Body), bodies = head :: rest ∧
    header.command = head.command ∧
    frame = header.encode ++ (Chain.joined bodies).bytesAt Header.length header.isUnicode

theorem links_pos_of_carries {frame : Bytes} {bodies : List Body} {links : Nat}
    (carries : Carries frame (bodies.take links)) : 0 < links := by
  obtain ⟨header, head, rest, some_link, -⟩ := carries
  cases links with
  | zero => cases some_link
  | succ links => exact Nat.succ_pos links

theorem carries_of_encode {config : Config} {m sent : Message} {maxSize : Nat} {frame : Bytes}
    (encoded : m.encode config maxSize = .ok (frame, sent)) :
    sent.bodies = m.bodies ∧ sent.links ≤ m.bodies.length ∧
      Carries frame (m.bodies.take sent.links) := by
  obtain ⟨head, rest, bodies, whole, -, rfl⟩ := Message.encode_eq_ok encoded
  refine ⟨rfl, Chain.carried_le _ _ _ _, m.header.forLink head.command, head, ?_⟩
  obtain ⟨links, count⟩ : ∃ n, Chain.carried config m.header.isResponse 0 m.bodies = n + 1 := by
    rw [bodies]
    exact ⟨_, (Nat.succ_pred_eq_of_pos (Chain.carried_pos ..)).symm⟩
  refine ⟨rest.take links, ?_, rfl, ?_⟩
  · rw [count, bodies]
    rfl
  · rw [whole, Chain.encode_eq_joined]
    rfl

/-- Signing changes the header of a frame and not what it carries. -/
theorem carries_of_sign {signer : Signer} {frame : Bytes} {signed : Signer.Signed}
    {bodies : List Body} (carries : Carries frame bodies)
    (sign : signer.sign Security.Md5.digest frame 0 frame.length = .ok signed) :
    Carries signed.buffer bodies := by
  obtain ⟨header, head, rest, same, command, rfl⟩ := carries
  obtain ⟨signature, buffer⟩ := Signer.buffer_of_sign sign
  refine ⟨{ header with signature }, head, rest, same, command, ?_⟩
  rw [buffer, Signer.replaceField_header]
  rfl

/-- Between two states of the output, frames were written that carry the first of some bodies, all
of them in order. Only of the last frame may a part be missing. -/
def Emitted (bodies : List Body) (before after : Bytes) : Prop :=
  ∃ (frames : List Bytes) (parts : List (List Body)) (written : Bytes),
    List.Forall₂ Carries frames parts ∧ parts.flatten <+: bodies ∧ after = before ++ written ∧
    written <+: frames.flatMap Netbios.packet ∧ frames.dropLast.flatMap Netbios.packet <+: written

theorem Emitted.nothing (bodies : List Body) (output : Bytes) : Emitted bodies output output :=
  ⟨[], [], [], .nil, List.nil_prefix, (List.append_nil _).symm, List.nil_prefix, List.nil_prefix⟩

/-- One frame, as far as it was written. -/
theorem Emitted.frame {bodies : List Body} {frame written : Bytes} {links : Nat}
    (carries : Carries frame (bodies.take links)) (part : written <+: Netbios.packet frame)
    (before : Bytes) : Emitted bodies before (before ++ written) := by
  refine ⟨[frame], [bodies.take links], written, .cons carries .nil, ?_, rfl, ?_, List.nil_prefix⟩
  · rw [List.flatten_singleton]
    exact List.take_prefix _ _
  · rw [List.flatMap_singleton]
    exact part

/-- A request of some bodies went out in one frame, with the first of them. -/
structure Transmitted (bodies : List Body) (before after : Connection) (sent : Message) : Prop where
  kept : sent.bodies = bodies
  links : sent.links ≤ bodies.length
  input : after.input = before.input
  output : ∃ frame, Carries frame (bodies.take sent.links) ∧
    after.output = before.output ++ Netbios.packet frame

variable (before : Connection)

theorem prepare_carries (request : Message) (awaited : Bool) :
    ⦃fun s => ⌜s.connection = before⌝⦄ prepare request awaited
    ⦃post⟨fun sent s => ⌜s.connection = before ∧ sent.request.bodies = request.bodies ∧
        sent.request.links ≤ request.bodies.length ∧
        Carries sent.frame (request.bodies.take sent.request.links)⌝,
      fun _ s => ⌜s.connection = before⌝⟩⦄ := by
  mvcgen [prepare, ofExcept]
  case vc1.h_1.h_1 kept _ encoded _ => exact ⟨kept, carries_of_encode encoded⟩
  case vc2.h_1.h_2.h_1 kept encoded encode signer signing signed sign sent =>
    obtain ⟨bodies, links, carries⟩ := carries_of_encode encode
    exact ⟨kept, bodies, links, carries_of_sign carries sign⟩

theorem write_packet (outbound : Outbound) :
    ⦃fun s => ⌜s.connection = before⌝⦄ write outbound
    ⦃post⟨fun _ s => ⌜s.connection.output = before.output ++ Netbios.packet outbound.frame ∧
        s.connection.input = before.input⌝,
      fun _ s => ⌜∃ written, written <+: Netbios.packet outbound.frame ∧
        s.connection.output = before.output ++ written⌝⟩⦄ := by
  rw [triple_iff]
  rintro s rfl
  have sent := triple_iff.mp (Connection.send_spec outbound.frame _ _) s.connection ⟨rfl, rfl⟩
  have unfolded : write outbound =
      (do let _ ← onConnection (Connection.send outbound.frame); return ⟨⟩) := rfl
  simp only [unfolded, bind, EStateM.bind, onConnection]
  cases done : Connection.send outbound.frame s.connection <;>
  · rw [done] at sent
    exact sent

namespace Exchange

theorem transmit_frame (bodies templates : List Body) :
    ⦃fun st => ⌜st.1.connection = before ∧ st.2.request.bodies = bodies ∧
      st.2.response.bodies = templates⌝⦄ transmit
    ⦃post⟨fun _ st => ⌜Transmitted bodies before st.1.connection st.2.request ∧
        st.2.response.bodies = templates⌝,
      fun _ st => ⌜Emitted bodies before.output st.1.connection.output⌝⟩⦄ := by
  have prepared := prepare_carries before
  have written := write_packet before
  mvcgen [transmit, prepared, written]
  case vc1.pre start => exact start.1
  case vc2.post.success.pre prepared _ => exact prepared.1
  case vc3.post.success.post.success st start sent s signSeq prepared next _ s' =>
    intro output input
    obtain ⟨rfl, rfl, rfl⟩ := start
    obtain ⟨-, kept, links, carries⟩ := prepared
    exact ⟨⟨kept, links, input, sent.frame, carries, output⟩, rfl⟩
  case vc4.post.success.post.except.handle st start sent s signSeq prepared next e s' =>
    rintro ⟨written, part, output⟩
    obtain ⟨rfl, rfl, rfl⟩ := start
    rw [output]
    exact .frame prepared.2.2.2 part _
  case vc5.post.except.handle =>
    rintro rfl
    exact .nothing _ _

/-- A frame that was accepted has been read into the templates. -/
theorem takenFrom_of_accept {s : Session} {frame : Bytes} {response taken : Message} {mid : UInt16}
    (accepted : (s.accept frame response mid).2 = (taken, .ok ())) :
    taken.TakenFrom response.bodies frame := by
  rw [snd_accept] at accepted
  cases decoded : decodeAnswer frame response mid with
  | error e => rw [decoded] at accepted; cases accepted
  | ok received =>
    have read : received.TakenFrom response.bodies frame := by
      obtain ⟨header, rest, first, _, bodies, links, reader, head, waiting, command, chain, rfl⟩ :=
        Message.decode_eq_ok_iff.mp (decodeAnswer_eq_ok_iff.mp decoded).1
      refine ⟨rest, reader, head, ?_, chain⟩
      rw [waiting]
      exact congrArg some command
    rw [decoded] at accepted
    cases signing : s.signer with
    | none =>
      rw [signing] at accepted
      obtain ⟨rfl, -⟩ := Prod.mk.inj accepted
      exact read
    | some signer =>
      rw [signing] at accepted
      dsimp only at accepted
      split at accepted
      next =>
        obtain ⟨rfl, -⟩ := Prod.mk.inj accepted
        exact read
      next => cases accepted

/-- A request went out, and the next frame of the server was read into the templates. -/
structure Answered (bodies templates : List Body) (before after : Connection) (x : Exchange) :
    Prop where
  kept : x.request.bodies = bodies
  links : x.request.links ≤ bodies.length
  output : ∃ frame, Carries frame (bodies.take x.request.links) ∧
    after.output = before.output ++ Netbios.packet frame
  answer : ∃ frame, Netbios.readFrame before.input = (.ok frame, after.input) ∧
    x.response.TakenFrom templates frame

theorem receive_frame (mid : UInt16) (bodies templates : List Body) :
    ⦃fun st => ⌜Transmitted bodies before st.1.connection st.2.request ∧
      st.2.response.bodies = templates⌝⦄ receive mid
    ⦃post⟨fun _ st => ⌜Answered bodies templates before st.1.connection st.2⌝,
      fun _ st => ⌜Emitted bodies before.output st.1.connection.output⌝⟩⦄ := by
  rw [triple_iff]
  rintro ⟨s, x⟩ ⟨⟨kept, links, input, sent, carries, output⟩, rfl⟩
  dsimp only at input output
  have emitted : Emitted bodies before.output s.connection.output := by
    rw [output]
    exact .frame carries (List.prefix_refl _) _
  rcases arrives : Netbios.readFrame s.connection.input with ⟨e | frame, rest⟩
  · simp only [receive, onSession, onConnection, Connection.receive, Connection.reading, arrives,
      bind, EStateM.bind]
    exact emitted
  · have same := connection_accept { s with connection := { s.connection with input := rest } }
      frame x.response mid
    simp only [receive, onSession, onConnection, Connection.receive, Connection.reading, arrives,
      bind, EStateM.bind, take]
    rcases taken : Session.accept { s with connection := { s.connection with input := rest } }
      frame x.response mid with ⟨s', response, ⟨e⟩ | ⟨⟨⟩⟩⟩ <;>
    rw [taken] at same <;>
    have written : s'.connection.output = s.connection.output := (congrArg Connection.output same :)
    · rw [← written] at emitted
      exact emitted
    · have read := takenFrom_of_accept (congrArg Prod.snd taken)
      have left : s'.connection.input = rest := (congrArg Connection.input same :)
      rw [input, ← left] at arrives
      exact ⟨kept, links, ⟨sent, carries, written.trans output⟩, frame, arrives, read⟩

/-- The identifiers that an answer assigns change no connection. -/
theorem connection_foldl_track (header : Header) (bodies : List Body) (s : Session) :
    (bodies.foldl (track · header) s).connection = s.connection := by
  induction bodies generalizing s with
  | nil => rfl
  | cons body bodies ih =>
    refine (ih (track s header body)).trans ?_
    cases body <;> rfl

theorem run_frames (bodies templates : List Body) :
    ⦃fun st => ⌜st.1.connection = before ∧ st.2.request.bodies = bodies ∧
      st.2.response.bodies = templates⌝⦄ run
    ⦃post⟨fun _ st => ⌜Answered bodies templates before st.1.connection st.2⌝,
      fun _ st => ⌜Emitted bodies before.output st.1.connection.output⌝⟩⦄ := by
  have transmitted := transmit_frame before bodies templates
  have received := fun mid => receive_frame before mid bodies templates
  mvcgen [run, nextMid, transmitted, received, trackAll]
  case vc1.h_1 start _ =>
    rw [start.1]
    exact .nothing _ _
  case vc4.h_2.post.success.post.success st answered next =>
    have same := connection_foldl_track st.2.response.header
      (st.2.response.bodies.take st.2.response.links) st.1
    exact same ▸ answered

end Exchange

/-- An exchange ends with an answer that was read into the templates, or leaves its frame at
most. -/
theorem exchange_frames (request response : Message) :
    ⦃fun s => ⌜s.connection = before⌝⦄ exchange request response
    ⦃post⟨fun x s => ⌜Exchange.Answered request.bodies response.bodies before s.connection x⌝,
      fun _ s => ⌜Emitted request.bodies before.output s.connection.output⌝⟩⦄ := by
  have done := Exchange.run_frames before request.bodies response.bodies
  mvcgen [exchange, done]

section

variable {request response : Message} {s s' : Session}

theorem answered_of_exchange {x : Exchange} (done : exchange request response s = .ok x s') :
    x.Answered request.bodies response.bodies s.connection s'.connection := by
  have after := triple_iff.mp (exchange_frames s.connection request response) s rfl
  rw [done] at after
  exact after

theorem emitted_of_exchange {e : Error} (failed : exchange request response s = .error e s') :
    Emitted request.bodies s.connection.output s'.connection.output := by
  have after := triple_iff.mp (exchange_frames s.connection request response) s rfl
  rw [failed] at after
  exact after

end

end Session

end Smb1
