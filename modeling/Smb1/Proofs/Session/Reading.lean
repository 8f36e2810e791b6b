import Smb1.Proofs.Message.Split
import Smb1.Proofs.Session.Frames
import Smb1.Session.File

/-! Reading straight into a buffer. Whether or not the data of a response was cut off and put there
before the response was taken in, a read comes out the same. -/
namespace Smb1

namespace Signer

/-- A payload is signed the same wherever it lies. -/
theorem accepts_apart (signer : Signer) (digest : Digest) {frame : Bytes} {received : Message}
    {x : ReadResponse} {offset : Nat} (bodies : received.bodies = [.readResponse x])
    (content : x.data = frame.drop offset) (attached : x.detached = false)
    (length : received.length = frame.length) (start : bodyOffset ≤ offset)
    (inside : offset ≤ frame.length) :
    signer.accepts digest (frame.take offset) received.apart =
      signer.accepts digest frame received := by
  have payload : detachedPayload received = [] := by
    rw [detachedPayload, bodies]
    exact if_neg (Bool.eq_false_iff.mp attached)
  have parted : detachedPayload received.apart = frame.drop offset := by
    rw [detachedPayload, Message.apart, bodies]
    exact content
  have stop : received.apart.length - (frame.drop offset).length = offset := by
    show received.length - _ = _
    rw [length, List.length_drop]
    omega
  have cut : (frame.take offset).length = offset := List.length_take_of_le inside
  have head : (frame.take offset).take Header.signatureOffset =
      frame.take Header.signatureOffset := by
    rw [List.take_take, Nat.min_eq_left (Nat.le_trans (by decide) start)]
  have body : ((frame.take offset).take offset).drop bodyOffset ++ frame.drop offset =
      (frame.take frame.length).drop bodyOffset ++ [] := by
    have rest : frame.drop offset = (frame.drop bodyOffset).drop (offset - bodyOffset) := by
      rw [List.drop_drop, Nat.add_sub_cancel' start]
    rw [List.take_take, Nat.min_self, List.drop_take, rest, List.take_append_drop, List.take_length,
      List.append_nil]
  have signature : ((frame.take offset).drop Header.signatureOffset).take Header.signatureLength =
      (frame.drop Header.signatureOffset).take Header.signatureLength := by
    rw [List.drop_take, List.take_take]
    congr 1
    exact Nat.min_eq_left (Nat.le_sub_of_add_le' start)
  have whole : bodyOffset ≤ frame.length := Nat.le_trans start inside
  simp only [accepts, payload, parted, stop, length, List.length_nil, Nat.sub_zero, cut, head,
    List.append_assoc, body, signature, Nat.le_refl, and_true, if_pos start, if_pos whole]
  rfl

end Signer

namespace Session

variable {frame buffer : Bytes} {room offset count : Nat} {response : Message}

/-- A session without its record of signatures. -/
def unrecorded (s : Session) : Session := { s with signatures := [] }

theorem unrecorded_accept (s : Session) (frame : Bytes) (response : Message) (mid : UInt16) :
    (s.accept frame response mid).1.unrecorded = s.unrecorded := by
  obtain ⟨-, same | ⟨-, _, -, -, same⟩⟩ := accept_cases s frame response mid <;> rw [same]
  rfl

/-- A response to a read, with its data. -/
def Brings (data : Bytes) (detached : Bool) (response : Message) : Prop :=
  ∃ x : ReadResponse, response.bodies = [.readResponse x] ∧ x.data = data ∧ x.detached = detached

/-- A response is accepted with its data cut off where it is accepted whole. -/
theorem accept_cut (fits : Netbios.Fits (frame.take ReadResponse.headLength) frame.length room
      offset count) (all : Message.CountsAll frame)
    (waits : response.bodies = [.readResponse .blank]) (s : Session) (mid : UInt16) :
    let whole := (s.accept frame response mid).2
    let parted := (s.accept (frame.take offset)
      { response with bodies := [.readResponse (.ofDetached (frame.drop offset))] } mid).2
    parted.2 = whole.2 ∧ (whole.2 = .ok () → Brings (frame.drop offset) false whole.1 ∧
      Brings (frame.drop offset) true parted.1) := by
  have start : Signer.bodyOffset ≤ offset :=
    Nat.le_trans (by decide) (Nat.le_trans fits.long fits.behind)
  have inside : offset ≤ frame.length := by
    have ends := fits.ends
    omega
  rw [snd_accept, snd_accept]
  unfold decodeAnswer
  have delivered := Message.decode_cut fits all waits
  generalize response.decode frame = whole at delivered ⊢
  generalize Message.decode _ (frame.take offset) = parted at delivered ⊢
  cases delivered with
  | failed m m' e => exact ⟨rfl, nofun⟩
  | read received x bodies content attached length =>
    have same (signer : Signer) := signer.accepts_apart Security.Md5.digest bodies content attached
      length start inside
    have found : Brings (frame.drop offset) false received := ⟨x, bodies, content, attached⟩
    have cut : Brings (frame.drop offset) true received.apart :=
      ⟨{ x with detached := true }, by rw [Message.apart, bodies]; rfl, content, rfl⟩
    have header : received.apart.header = received.header := rfl
    dsimp only
    rw [header]
    by_cases answers : received.header.mid ≠ mid
    · rw [if_pos answers, if_pos answers]
      exact ⟨rfl, nofun⟩
    rw [if_neg answers, if_neg answers]
    by_cases rejected : received.header.ntStatus.isAuthFailure = true
    · rw [if_pos rejected, if_pos rejected]
      exact ⟨rfl, nofun⟩
    rw [if_neg rejected, if_neg rejected]
    cases s.signer with
    | none => exact ⟨rfl, fun _ => ⟨found, cut⟩⟩
    | some signer =>
      dsimp only
      rw [same]
      by_cases passed : signer.accepts Security.Md5.digest frame received = true
      · rw [if_pos passed, if_pos passed]
        exact ⟨rfl, fun _ => ⟨found, cut⟩⟩
      · rw [if_neg passed, if_neg passed]
        exact ⟨rfl, nofun⟩

/-- Data that a response brings whole is not taken for detached. -/
theorem brings_of_accept {s : Session} {taken : Message} {mid : UInt16}
    (waits : response.bodies = [.readResponse .blank])
    (accepted : (s.accept frame response mid).2 = (taken, .ok ())) :
    ∃ data, Brings data false taken := by
  obtain ⟨_, _, -, -, chain⟩ := Exchange.takenFrom_of_accept accepted
  rw [waits] at chain
  generalize bodies : taken.bodies = received at chain
  generalize taken.links = links at chain
  cases chain with
  | last link _ =>
    obtain ⟨x, rfl, attached⟩ := Chain.readLink_readResponse link
    exact ⟨x.data, x, bodies, rfl, attached⟩

/-- Data copied into a buffer, as far as there is room. -/
def copied (data buffer : Bytes) : Filled :=
  let length := min data.length buffer.length
  ⟨length, data.take length ++ buffer.drop length⟩

/-- What a read comes to is what its response brings, wherever that was put. -/
theorem fill_eq_copied {answer : ReadResponse} {data : Bytes} (content : answer.data = data)
    {buffer filled : Bytes} (delivered : answer.detached = false ∧ filled = buffer ∨
      answer.detached = true ∧ data.length ≤ buffer.length ∧
        filled = data ++ buffer.drop data.length) : fill answer filled = copied data buffer := by
  subst content
  rcases delivered with ⟨attached, rfl⟩ | ⟨detached, room, rfl⟩
  · exact if_neg (Bool.eq_false_iff.mp attached)
  · rw [fill, if_pos detached, copied, Nat.min_eq_left room, List.take_length]

/-- Only what the count says is new in a buffer. -/
theorem copied_spec (data buffer : Bytes) : (copied data buffer).count ≤ buffer.length ∧
    (copied data buffer).buffer.length = buffer.length ∧
      (copied data buffer).buffer.drop (copied data buffer).count =
        buffer.drop (copied data buffer).count := by
  have len : (data.take (min data.length buffer.length)).length =
      min data.length buffer.length := List.length_take_of_le (Nat.min_le_left ..)
  refine ⟨Nat.min_le_right .., ?_, List.drop_left' len⟩
  rw [copied, List.length_append, len, List.length_drop]
  omega

/-- The response of a read, which is received whole. -/
def Exchange.readWhole (mid : UInt16) : Exchange.Step Unit := do
  transmit
  receive mid

/-- Reads like `read` does, but receives the response whole and copies the data from there. -/
def readWhole (fid : UInt16) (offset : UInt64) (buffer : Bytes) : Step Filled := do
  let count := UInt32.ofNat (min buffer.length 0xFFFFFFFF)
  let mid ← nextMid
  let header := (← get).header .readAndX mid
  let (_, x) ← exchanging (.ofBodies header [.readRequest (.ofRange fid offset count)])
    (.expecting [.readResponse .blank]) (Exchange.readWhole mid)
  match x.response.bodies with
  | .readResponse answer :: _ => return copied answer.data buffer
  | _ => throw (.protocol (.answerMissing "read"))

/-- What a step comes to, apart from the record of signatures. -/
def observed {α : Type} : EStateM.Result Error Session α → Except Error α × Session
  | .ok a s => (.ok a, s.unrecorded)
  | .error e s => (.error e, s.unrecorded)

/-- Exchanges that come to the same, except that one may have put the data into a buffer. -/
inductive SameRead (buffer : Bytes) : EStateM.Result Error (Session × Exchange) Bytes →
    EStateM.Result Error (Session × Exchange) Unit → Prop
  | failed {s s' : Session} {x x' : Exchange} {e : Error} (same : s.unrecorded = s'.unrecorded) :
      SameRead buffer (.error e (s, x)) (.error e (s', x'))
  | read {s s' : Session} {x x' : Exchange} {filled data : Bytes} {detached : Bool}
      (same : s.unrecorded = s'.unrecorded) (whole : Brings data false x'.response)
      (brings : Brings data detached x.response)
      (delivered : detached = false ∧ filled = buffer ∨
        detached = true ∧ data.length ≤ buffer.length ∧
          filled = data ++ buffer.drop data.length) :
      SameRead buffer (.ok filled (s, x)) (.ok () (s', x'))

/-- A frame that was received is taken in with or without its data. -/
theorem take_split (s : Session) (x : Exchange) (mid : UInt16) (frame buffer : Bytes)
    (waits : x.response.bodies = [.readResponse .blank]) (all : Message.CountsAll frame) :
    SameRead buffer
      (match Exchange.take (Netbios.split frame buffer).head mid
          (s, { x with response := readTemplates x.response (Netbios.split frame buffer) }) with
        | .ok _ st => .ok (Netbios.split frame buffer).buffer st
        | .error e st => .error e st)
      (Exchange.take frame mid (s, x)) := by
  have unchanged := unrecorded_accept s frame x.response mid
  rcases Netbios.split_cases frame buffer with same | ⟨offset, count, fits, same⟩ <;> rw [same]
  · have template : readTemplates x.response ⟨frame, none, buffer⟩ = x.response := rfl
    simp only [template, Exchange.take]
    rcases accepted : s.accept frame x.response mid with ⟨s', response, e | ⟨⟨⟩⟩⟩
    · exact .failed rfl
    · obtain ⟨data, brings⟩ := brings_of_accept waits (congrArg Prod.snd accepted)
      exact .read rfl brings brings (.inl ⟨rfl, rfl⟩)
  · have inside : offset + count = frame.length := fits.ends
    have room : (frame.drop offset).length = count := by
      rw [List.length_drop]
      omega
    have template : readTemplates x.response
        ⟨frame.take offset, some count, frame.drop offset ++ buffer.drop count⟩ =
          { x.response with bodies := [.readResponse (.ofDetached (frame.drop offset))] } := by
      simp only [readTemplates, List.take_left' room]
    obtain ⟨outcome, brings⟩ := accept_cut fits all waits s mid
    have parted := unrecorded_accept s (frame.take offset)
      { x.response with bodies := [.readResponse (.ofDetached (frame.drop offset))] } mid
    simp only [template, Exchange.take]
    generalize s.accept (frame.take offset) _ mid = cut at outcome brings parted ⊢
    generalize s.accept frame x.response mid = whole at outcome brings unchanged ⊢
    obtain ⟨s₁, response₁, outcome₁⟩ := cut
    obtain ⟨s₂, response₂, outcome₂⟩ := whole
    obtain rfl : outcome₁ = outcome₂ := outcome
    have same : s₁.unrecorded = s₂.unrecorded := parted.trans unchanged.symm
    rcases outcome₁ with e | ⟨⟨⟩⟩
    · exact .failed same
    · obtain ⟨whole, cut⟩ := brings rfl
      exact .read same whole cut (.inr ⟨rfl, room ▸ fits.small, by rw [room]⟩)

theorem readInto_eq (s : Session) (x : Exchange) (mid : UInt16) (buffer : Bytes)
    (waits : x.response.bodies = [.readResponse .blank])
    (all : ∀ frame rest, Netbios.readFrame s.connection.input = (.ok frame, rest) →
      Message.CountsAll frame) :
    SameRead buffer (Exchange.readInto buffer mid (s, x))
      (Exchange.readWhole mid (s, x)) := by
  have transmitted := triple_iff.mp (Exchange.transmit_frame s.connection x.request.bodies
    [.readResponse .blank]) (s, x) ⟨rfl, rfl, waits⟩
  simp only [Exchange.readInto, Exchange.readWhole, bind, EStateM.bind]
  rcases sent : Exchange.transmit (s, x) with ⟨⟨⟩, s', x'⟩ | ⟨e, s', x'⟩
  case error => exact .failed rfl
  rw [sent] at transmitted
  obtain ⟨⟨-, -, input, -⟩, waits⟩ := transmitted
  dsimp only at input waits
  rw [← input] at all
  simp only [Exchange.receive, Exchange.onSession, onConnection, Connection.receiveSplit,
    Connection.receive, Connection.reading, Netbios.readSplitFrame_eq, bind, EStateM.bind]
  rcases arrives : Netbios.readFrame s'.connection.input with ⟨e | frame, rest⟩
  case error => exact .failed rfl
  have same := take_split { s' with connection := { s'.connection with input := rest } } x' mid
    frame buffer waits (all frame rest arrives)
  dsimp only [modify, modifyGet, MonadStateOf.modifyGet, EStateM.modifyGet]
  cases taken : Exchange.take (Netbios.split frame buffer).head mid _ <;>
  · rw [taken] at same
    exact same

/-- Cutting off the data of a response changes nothing that a read comes to, if the byte counts of
what is received take in all that there is. -/
theorem read_eq_readWhole (s : Session) (fid : UInt16) (offset : UInt64) (buffer : Bytes)
    (all : ∀ frame rest, Netbios.readFrame s.connection.input = (.ok frame, rest) →
      Message.CountsAll frame) :
    observed (read fid offset buffer s) = observed (readWhole fid offset buffer s) ∧
      ∀ filled s', read fid offset buffer s = .ok filled s' →
        filled.count ≤ buffer.length ∧ filled.buffer.length = buffer.length ∧
          filled.buffer.drop filled.count = buffer.drop filled.count := by
  have numbered : nextMid s =
      .ok (midAfter s.mid) { s with mid := midAfter s.mid } := rfl
  simp only [read, readWhole, bind, EStateM.bind, numbered, get_apply, exchanging]
  generalize Message.ofBodies _ _ = request
  have same := readInto_eq { s with mid := midAfter s.mid }
    ⟨request, .expecting [.readResponse .blank]⟩ (midAfter s.mid) buffer rfl all
  generalize Exchange.readInto buffer _ _ = parted at same ⊢
  generalize Exchange.readWhole _ _ = whole at same ⊢
  cases same with
  | failed same =>
    dsimp only [observed]
    exact ⟨congrArg _ same, fun _ _ impossible => by cases impossible⟩
  | read same whole brings delivered =>
    obtain ⟨answer, bodies, content, rfl⟩ := brings
    obtain ⟨answer', bodies', content', -⟩ := whole
    simp only [bodies, bodies', fill_eq_copied content delivered, content']
    refine ⟨congrArg (Prod.mk _) same, fun found _ done => ?_⟩
    cases done
    exact copied_spec _ buffer

/-- A frame with four bytes of a file at its end. -/
def fourRead : Bytes := (Header.ofIds .readAndX 0 0 0 1).encode ++
  [12, 0xFF, 0, 0xDE, 0xDE, 0, 0, 0, 0, 0, 0, 4, 0, 59, 0] ++ List.replicate 10 0 ++
    [4, 0, 1, 2, 3, 4]

def reading : Session :=
  start (.ofInput "" (Netbios.packet fourRead) none) (Config.standard 0 "")

theorem read_eq_readWhole_fourRead :
    (Netbios.split fourRead [9, 9, 9, 9, 9, 9]).payloadLength = some 4 ∧
      observed (read 1 0 [9, 9, 9, 9, 9, 9] reading) =
        observed (readWhole 1 0 [9, 9, 9, 9, 9, 9] reading) ∧
      ∃ filled s', read 1 0 [9, 9, 9, 9, 9, 9] reading = .ok filled s' ∧
        filled.buffer.take filled.count = [1, 2, 3, 4] ∧
          filled.buffer.drop filled.count = [9, 9, 9, 9, 9, 9].drop filled.count := by
  have received : Netbios.readFrame (Netbios.packet fourRead) = (.ok fourRead, []) := by
    decide +kernel
  have counted : ∀ frame rest, Netbios.readFrame reading.connection.input = (.ok frame, rest) →
      Message.CountsAll frame := by
    intro frame rest arrives
    cases received.symm.trans arrives
    intro words count inWords inCount
    cases (show fourRead[Header.length]? = some 12 by decide +kernel).symm.trans inWords
    cases (show Word.at? fourRead 57 = some (4 : UInt16) by decide +kernel).symm.trans inCount
    decide +kernel
  obtain ⟨same, kept⟩ := read_eq_readWhole reading 1 0 [9, 9, 9, 9, 9, 9] counted
  have done : ((read 1 0 [9, 9, 9, 9, 9, 9]).run' reading).any
      fun filled => filled.buffer.take filled.count == [1, 2, 3, 4] := by decide +kernel
  obtain ⟨filled, s', ended, holds⟩ := exists_of_any done
  exact ⟨by decide +kernel, same, filled, s', ended, beq_iff_eq.mp holds,
    (kept filled s' ended).2.2⟩

end Session

end Smb1
