import Smb1.Proofs.Message.Safe
import Smb1.Proofs.Transport.Split
import Smb1.Security.Signing

/-! Nothing that can be received makes the client fail otherwise than with an error of its own. A
position is a 64-bit number and a message lies in memory, which is half as large; what 16- and
32-bit numbers in a message add to that never reaches the end of the numbers, and whatever is read
has been looked for first. -/
namespace Smb1

open Wire Transaction

variable {n : Nat} {frame : Bytes} {r : Reader}

namespace Chain

/-- A chain is read link by link, each from where a 16-bit number leads. -/
theorem lands_decode {bodies : List Body} (ready : ∀ b ∈ bodies, b.Ready n) (status : UInt32)
    (memory : r.length < memoryLimit) (here : r.position ≤ r.length + reach) :
    Lands reach r (decode status bodies r).2 := by
  induction bodies generalizing r with
  | nil => exact .error rfl
  | cons b rest ih =>
    have link := safe_readLink (ready b (.head _)) memory here
    have offsets := offset_readLink b r
    rw [linkDecoder_apply] at link
    unfold decode
    rcases read : readLink b r with ⟨c, e | ⟨next, r'⟩⟩ <;> rw [read] at link
    · exact .error (link.faultless e rfl)
    obtain ⟨same, close⟩ := link.within
    match next with
    | none => exact .ok same close
    | some successor =>
      have near := offsets _ _ (linkDecoder_eq_ok.mpr read) successor rfl
      have later := ih (r := r'.seek successor.offset) (fun b member => ready b (.tail _ member))
        (same.symm ▸ memory) (Nat.le_add_left_of_le near)
      dsimp only
      split
      · exact .ok same close
      split
      · exact .error rfl
      split
      · exact .error rfl
      · exact (later.map (· + 1)).of_same same

theorem ready_decode {bodies : List Body} (ready : ∀ b ∈ bodies, b.Ready n) (status : UInt32)
    (r : Reader) : ∀ b ∈ (decode status bodies r).1, b.Ready (n + 1) := by
  induction bodies generalizing r with
  | nil => exact List.forall_mem_nil _
  | cons b rest ih =>
    have link := ready_readLink (ready b (.head _)) r
    have others (c : Body) (member : c ∈ rest) : c.Ready n := ready c (.tail _ member)
    have kept (c : Body) (member : c ∈ rest) : c.Ready (n + 1) := (others c member).later
    unfold decode
    generalize readLink b r = outcome at link
    rcases outcome with ⟨c, e | ⟨_ | successor, r'⟩⟩
    · exact List.forall_mem_cons.mpr ⟨link, kept⟩
    · exact List.forall_mem_cons.mpr ⟨link, kept⟩
    dsimp only
    split
    · exact List.forall_mem_cons.mpr ⟨link, kept⟩
    split
    · exact List.forall_mem_cons.mpr ⟨link, kept⟩
    split
    · exact List.forall_mem_cons.mpr ⟨link, kept⟩
    · exact List.forall_mem_cons.mpr ⟨link, ih others _⟩

end Chain

theorem Header.safe_fields : Safe 0 0 fields r := by
  refine .bind (.take (by decide)) fun _ _ => .ite (.refused rfl) ?_
  refine .bind .u8 fun code _ => .bind .u32 fun _ _ => .bind .u8 fun _ _ => ?_
  refine .bind .u16 fun _ _ => .bind .u16 fun _ _ => .bind (.octets (by decide)) fun _ _ => ?_
  refine .bind (.skip (by decide)) fun _ _ => .bind (.u16_near (by decide)) fun _ _ => ?_
  refine .bind .u16 fun _ _ => .bind .u16 fun _ _ => .bind .u16 fun _ _ => ?_
  cases Command.ofCode? code with
  | none => exact .fail rfl
  | some command => exact .pure

theorem Header.faultless_decode (memory : frame.length < memoryLimit) :
    Faultless (Header.decode frame) := by
  have fields : Safe 0 0 fields (Reader.start frame false) := safe_fields
  unfold Header.decode
  split
  · exact .error rfl
  · exact .bind (fields memory (Nat.zero_le _)).faultless fun _ _ => .ok

namespace Message

variable {m : Message}

/-- A message is read or refused, and reaches hardly further than its frame. -/
theorem decode_cases (ready : ∀ b ∈ m.bodies, b.Ready n) (memory : frame.length < memoryLimit) :
    (∃ e, (m.decode frame).2 = .error e ∧ e.isOutOfRange = false ∧
        (m.decode frame).1.length = m.length) ∨
      ((m.decode frame).2 = .ok () ∧ (m.decode frame).1.length ≤ frame.length + reach) := by
  unfold decode
  cases headed : Header.decode frame with
  | error e => exact .inl ⟨e, rfl, Header.faultless_decode memory e headed, rfl⟩
  | ok got =>
    obtain ⟨header, behind⟩ := got
    dsimp only
    cases bodies : m.bodies with
    | nil => exact .inl ⟨_, rfl, rfl, rfl⟩
    | cons head rest =>
      dsimp only
      split
      · exact .inl ⟨_, rfl, rfl, rfl⟩
      have landed := Chain.lands_decode (bodies ▸ ready) header.status memory
        (r := (Reader.start frame header.isUnicode).seek Header.length)
        (Nat.le_add_left_of_le (show Header.length ≤ reach by decide))
      rcases chain : Chain.decode header.status (head :: rest)
        ((Reader.start frame header.isUnicode).seek Header.length) with
        ⟨filled, e | ⟨links, r'⟩⟩ <;> rw [chain] at landed
      · exact .inl ⟨e, rfl, landed.faultless e rfl, rfl⟩
      · exact .inr ⟨rfl, landed.within.2⟩

theorem ready_decode (ready : ∀ b ∈ m.bodies, b.Ready n) (frame : Bytes) :
    ∀ b ∈ (m.decode frame).1.bodies, b.Ready (n + 1) := by
  have kept (b : Body) (member : b ∈ m.bodies) : b.Ready (n + 1) := (ready b member).later
  unfold decode
  cases Header.decode frame with
  | error e => exact kept
  | ok got =>
    obtain ⟨header, behind⟩ := got
    dsimp only
    cases bodies : m.bodies with
    | nil => exact kept
    | cons head rest =>
      dsimp only
      split
      · exact kept
      have chain := Chain.ready_decode (bodies ▸ ready) header.status
        ((Reader.start frame header.isUnicode).seek Header.length)
      generalize Chain.decode header.status (head :: rest) _ = outcome at chain
      rcases outcome with ⟨filled, e | ⟨links, r'⟩⟩ <;> exact chain

end Message

/-- The message that was read is checked, or the templates that it was refused for. -/
theorem Signer.faultless_verifyAt (s : Signer) (digest : Signer.Digest) {buffer : Bytes}
    {offset : Nat} {m : Message} (ready : ∀ b ∈ m.bodies, b.Ready n)
    (inside : offset + frame.length ≤ buffer.length) (memory : buffer.length < memoryLimit)
    (read : (m.decode frame).2 = .ok () ∨ m.length ≤ memoryLimit) :
    Faultless (s.verifyAt digest buffer offset (m.decode frame).1) := by
  have whole : memoryLimit + memoryLimit = Position.limit := by decide
  have near : 22 + reach < memoryLimit := by decide
  have ends : offset + max bodyOffset (m.decode frame).1.length < Position.limit := by
    have last : bodyOffset = 22 := rfl
    have small : frame.length < memoryLimit := by omega
    rcases m.decode_cases ready small with
      ⟨e, failed, -, same⟩ | ⟨-, short⟩
    · have short := read.resolve_left (by rw [failed]; exact nofun)
      omega
    · omega
  unfold verifyAt
  rw [Position.add_eq_ok_iff.mpr ⟨rfl, ends⟩]
  exact .ok

namespace Netbios

theorem faultless_readExact (count : Nat) (input : Bytes) :
    Faultless (readExact count input).1 := by
  by_cases enough : count ≤ input.length
  · rw [readExact_eq_ok enough]
    exact .ok
  · rw [readExact_eq_error (Nat.not_le.mp enough)]
    exact .error rfl

theorem faultless_readHeader (input : Bytes) : Faultless (readHeader input).1 := by
  fun_induction readHeader input with
  | case1 => exact .ok
  | case2 high middle low body length e rest failed =>
    exact .error (faultless_readExact length body e (congrArg Prod.fst failed))
  | case3 => assumption
  | case4 => exact .error rfl
  | case5 => exact .error rfl

theorem faultless_readFrame (input : Bytes) : Faultless (readFrame input).1 := by
  unfold readFrame
  split
  next e rest failed => exact .error (faultless_readHeader input e (congrArg Prod.fst failed))
  next length rest read => exact faultless_readExact length rest

/-- What is read in two parts breaks off where what is read whole does. -/
theorem faultless_readSplitFrame (input buffer : Bytes) :
    Faultless (readSplitFrame input buffer).1 := by
  rw [readSplitFrame_eq]
  split
  next e rest failed => exact .error (faultless_readFrame input e (congrArg Prod.fst failed))
  next => exact .ok

end Netbios

/-- Every file time is a 64-bit number of milliseconds. -/
theorem Time.ofFileTime_mem (ticks : UInt64) :
    Int64.minValue.toInt ≤ Time.ofFileTime ticks ∧
      Time.ofFileTime ticks ≤ Int64.maxValue.toInt := by
  have bound := ticks.toNat_lt
  have least : Int64.minValue.toInt = -9223372036854775808 := by decide
  have most : Int64.maxValue.toInt = 9223372036854775807 := by decide
  unfold Time.ofFileTime Time.epochShift
  split <;> omega

namespace Message

/-- Templates that up to so many frames have been read into. -/
def Ready (n : Nat) (m : Message) : Prop := ∀ b ∈ m.bodies, b.Ready n

/-- The templates after some frames, whatever came of each. -/
def after (m : Message) (frames : List Bytes) : Message :=
  frames.foldl (fun m frame => (m.decode frame).1) m

theorem ready_after {m : Message} (ready : m.Ready n) (frames : List Bytes) :
    (m.after frames).Ready (n + frames.length) := by
  induction frames generalizing m n with
  | nil => exact ready
  | cons frame frames ih =>
    rw [List.length_cons, Nat.add_comm frames.length, ← Nat.add_assoc]
    exact ih (ready_decode ready frame)

end Message

/-- Whatever was received before and is received now, it is read, or refused with an error that it
accounts for. That holds of a frame and the templates it is read into, of the signature of what was
read, of a response and its next frame, of the payloads that a transaction answers with, and of a
byte stream. No counter of frames runs ahead of the frames, and no time leaves its numbers. -/
theorem received_faultless :
    (∀ (n : Nat) (templates : Message) (earlier : List Bytes) (frame : Bytes),
      templates.Ready n → frame.length < memoryLimit →
      let m := templates.after earlier
      Faultless (m.decode frame).2 ∧ (m.decode frame).1.Ready (n + earlier.length + 1) ∧
        ∀ (s : Signer) (digest : Signer.Digest) (buffer : Bytes) (offset : Nat),
          offset + frame.length ≤ buffer.length → buffer.length < memoryLimit →
          (m.decode frame).2 = .ok () ∨ m.length ≤ memoryLimit →
          Faultless (s.verifyAt digest buffer offset (m.decode frame).1)) ∧
    (∀ (n : Nat) (r : Reassembly) (f : ResponseFrame) (unicode : Bool), r.Reached n →
      (∀ part, (f.payload part).length < memoryLimit) →
      Faultless (r.accept f unicode).2 ∧ (r.accept f unicode).1.frames ≤ n + 1) ∧
    (∀ (payload : Bytes) (unicode : Bool), payload.length < memoryLimit →
      Faultless (ReferralResponse.decode payload unicode) ∧
        Faultless (Change.decodeAll payload)) ∧
    (∀ input buffer : Bytes, Faultless (Netbios.readFrame input).1 ∧
      Faultless (Netbios.readSplitFrame input buffer).1) ∧
    ∀ ticks : UInt64, Int64.minValue.toInt ≤ Time.ofFileTime ticks ∧
      Time.ofFileTime ticks ≤ Int64.maxValue.toInt := by
  refine ⟨?_, ?_, ?_, ?_, Time.ofFileTime_mem⟩
  · intro n templates earlier frame ready memory
    have ready := templates.ready_after ready earlier
    refine ⟨?_, Message.ready_decode ready frame, fun s digest buffer offset inside room read => ?_⟩
    · rcases Message.decode_cases ready memory with ⟨e, failed, reported, -⟩ | ⟨done, -⟩
      · rw [failed]
        exact .error reported
      · rw [done]
        exact .ok
    · exact s.faultless_verifyAt digest ready inside room read
  · intro n r f unicode reached few
    have counted := Reassembly.frames_le_of_reached (reached.accept f unicode)
    have taken := Reassembly.faultless_accept (Reassembly.intact_of_reached reached) f unicode few
    exact ⟨taken, counted⟩
  · exact fun payload unicode memory =>
      ⟨ReferralResponse.faultless_decode unicode memory, Change.faultless_decodeAll memory⟩
  · exact fun input buffer =>
      ⟨Netbios.faultless_readFrame input, Netbios.faultless_readSplitFrame input buffer⟩

/-- A frame with the first two of four bytes that were read from a pipe. -/
def halfAnswer : Bytes := (Header.ofIds .transaction 0 0 0 1).encode ++
  [10, 0, 0, 4, 0, 0, 0, 0, 0, 0, 0, 0, 0, 2, 0, 55, 0, 0, 0, 0, 0, 2, 0, 1, 2]

/-- The same as it stands in a byte stream. -/
def halfPacket : Bytes :=
  Netbios.header Netbios.sessionMessage halfAnswer.length ++ halfAnswer

def pipeAnswer : Message := .expecting [.transactionResponse (.start (.pipe []))]

/-- The half that has arrived arrives once more. -/
theorem received_faultless_overlap :
    pipeAnswer.Ready 0 ∧ 4 + halfAnswer.length ≤ halfPacket.length ∧
      halfPacket.length < memoryLimit ∧
      ((pipeAnswer.after [halfAnswer]).decode halfAnswer).2 =
        .error (.protocol (.fragmentOverlap .data 0 2)) ∧
      Faultless ((pipeAnswer.after [halfAnswer]).decode halfAnswer).2 ∧
      Faultless ((Signer.ofKey [7]).verifyAt (fun text => text) halfPacket 4
        ((pipeAnswer.after [halfAnswer]).decode halfAnswer).1) ∧
      Faultless ((Reassembly.start (.pipe [])).accept (.complete .transaction [] [] [1]) true).2 ∧
      Faultless (ReferralResponse.decode halfAnswer true) ∧
      Faultless (Netbios.readSplitFrame halfPacket [0, 0]).1 := by
  obtain ⟨frames, responses, payloads, streams, -⟩ := received_faultless
  have ready : pipeAnswer.Ready 0 := by
    intro b member
    obtain rfl := List.mem_singleton.mp member
    exact ⟨nofun, fun r same => Option.some.inj same ▸ .start _⟩
  have length : halfAnswer.length = 57 := by decide +kernel
  have packet : halfPacket.length = 61 := by decide +kernel
  have memory : 61 < memoryLimit := by decide
  obtain ⟨read, -, checked⟩ := frames 0 pipeAnswer [halfAnswer] halfAnswer ready (by omega)
  refine ⟨ready, by omega, by omega, by decide +kernel, read, ?_, ?_, ?_, (streams _ _).2⟩
  · exact checked _ _ halfPacket 4 (by omega) (by omega)
      (.inr (by decide +kernel))
  · exact (responses 0 _ _ true (.start _) fun part => by cases part <;> decide).1
  · exact (payloads halfAnswer true (by omega)).1

end Smb1
