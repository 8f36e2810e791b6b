import Smb1.Proofs.Session.Exchange

/-! Frames that are taken into one response, one after another. Whatever a rejected frame did to its
copy of the templates is lost with the copy, so the response is the same without that frame; and
while signing is active, only a signature that holds lets a frame in. -/
namespace Smb1

/-- A message without the outcome of its check. -/
def Message.unmarked (m : Message) : Message := { m with verification := .unchecked }

/-- What a frame brings: the header, the bodies, and how many links and bytes there were. -/
def Message.content (m : Message) : Header × List Body × Nat × Nat :=
  (m.header, m.bodies, m.links, m.length)

/-- Nothing that is read depends on the outcome of an earlier check. -/
theorem Message.decode_unmarked (m : Message) (frame : Bytes) :
    m.unmarked.decode frame = ((m.decode frame).1.unmarked, (m.decode frame).2) := by
  obtain ⟨own, bodies, length, signSeq, verification, links⟩ := m
  simp only [decode, unmarked]
  cases Header.decode frame with
  | error e => rfl
  | ok read =>
    cases bodies with
    | nil => rfl
    | cons head rest =>
      by_cases command : head.command ≠ read.1.command
      · simp only [if_pos command]
      · simp only [if_neg command]
        rcases Chain.decode read.1.status (head :: rest) _ with ⟨received, ⟨e⟩ | ⟨links, _⟩⟩ <;>
          rfl

namespace Session

/-- An answer was received, if only to the effect that the request failed. -/
def isAnswer : Except Error Unit → Bool
  | .ok () | .error (.response _) => true
  | .error _ => false

/-- Takes frames into a response, and tells what came of each. -/
def acceptAll (mid : UInt16) :
    List Bytes → Session → Message → List (Bytes × Except Error Unit) × Session × Message
  | [], s, response => ([], s, response)
  | frame :: frames, s, response =>
    let (s, response, outcome) := s.accept frame response mid
    let (outcomes, s, response) := acceptAll mid frames s response
    ((frame, outcome) :: outcomes, s, response)

variable {s : Session} {frame : Bytes} {response : Message} {mid : UInt16}

/-- What comes of a frame, as far as the response is concerned. -/
theorem snd_accept (s : Session) (frame : Bytes) (response : Message) (mid : UInt16) :
    (s.accept frame response mid).2 =
      match decodeAnswer frame response mid, s.signer with
      | .error e, _ => (response, .error e)
      | .ok received, none => (received, checkStatus received.header)
      | .ok received, some signer =>
        if signer.accepts Security.Md5.digest frame received then
          ({ received with verification := .passed }, checkStatus received.header)
        else ({ response with verification := .failed },
          .error (.crypto (.signature received.header.command))) := by
  unfold accept
  cases decoded : decodeAnswer frame response mid with
  | error e => rfl
  | ok received =>
    cases signing : s.signer with
    | none => simp only [verify, signing]
    | some signer =>
      cases passed : signer.accepts Security.Md5.digest frame received <;>
        simp [verify, signing, Signer.verify, passed]

theorem signer_accept (s : Session) (frame : Bytes) (response : Message) (mid : UInt16) :
    (s.accept frame response mid).1.signer = s.signer := by
  obtain ⟨-, same | ⟨-, _, -, -, same⟩⟩ := accept_cases s frame response mid <;> rw [same]

theorem decodeAnswer_eq_ok_iff {received : Message} :
    decodeAnswer frame response mid = .ok received ↔
      response.decode frame = (received, .ok ()) ∧ received.header.mid = mid ∧
        received.header.ntStatus.isAuthFailure = false := by
  unfold decodeAnswer
  rcases response.decode frame with ⟨read, ⟨e⟩ | ⟨⟨⟩⟩⟩
  · simp
  · by_cases answers : read.header.mid = mid
    · cases rejected : read.header.ntStatus.isAuthFailure <;> grind
    · grind

theorem decodeAnswer_unmarked (frame : Bytes) (response : Message) (mid : UInt16) :
    decodeAnswer frame response.unmarked mid =
      (decodeAnswer frame response mid).map Message.unmarked := by
  unfold decodeAnswer
  rw [response.decode_unmarked frame]
  rcases response.decode frame with ⟨received, ⟨e⟩ | ⟨⟨⟩⟩⟩
  · rfl
  · by_cases other : received.header.mid ≠ mid
    · simp [Message.unmarked, other, Except.map]
    · cases rejected : received.header.ntStatus.isAuthFailure <;>
        simp [Message.unmarked, other, rejected, Except.map]

/-- The outcome of an earlier check changes nothing but itself. -/
theorem accept_unmarked (s : Session) (frame : Bytes) (response : Message) (mid : UInt16) :
    (s.accept frame response.unmarked mid).2.2 = (s.accept frame response mid).2.2 ∧
      (s.accept frame response.unmarked mid).2.1.unmarked =
        (s.accept frame response mid).2.1.unmarked := by
  rw [snd_accept, snd_accept, decodeAnswer_unmarked]
  cases decodeAnswer frame response mid with
  | error e => exact ⟨rfl, rfl⟩
  | ok received =>
    cases s.signer with
    | none => exact ⟨rfl, rfl⟩
    | some signer =>
      have same : signer.accepts Security.Md5.digest frame received.unmarked =
          signer.accepts Security.Md5.digest frame received := rfl
      simp only [Except.map, same]
      split <;> exact ⟨rfl, rfl⟩

/-- Of a session, only the signer decides what comes of a frame. -/
theorem accept_congr {s' : Session} {response' : Message} (signer : s'.signer = s.signer)
    (same : response'.unmarked = response.unmarked) (frame : Bytes) (mid : UInt16) :
    (s'.accept frame response' mid).2.2 = (s.accept frame response mid).2.2 ∧
      (s'.accept frame response' mid).2.1.unmarked =
        (s.accept frame response mid).2.1.unmarked := by
  have alike : (s'.accept frame response'.unmarked mid).2 =
      (s.accept frame response.unmarked mid).2 := by
    rw [snd_accept, snd_accept, signer, same]
  obtain ⟨outcome, content⟩ := accept_unmarked s frame response mid
  obtain ⟨outcome', content'⟩ := accept_unmarked s' frame response' mid
  rw [← outcome, ← content, ← outcome', ← content', alike]
  exact ⟨rfl, rfl⟩

theorem isAnswer_checkStatus (header : Header) : isAnswer (checkStatus header) = true := by
  unfold checkStatus
  split <;> rfl

theorem accept_of_rejected (rejected : isAnswer (s.accept frame response mid).2.2 = false) :
    (s.accept frame response mid).2.1.unmarked = response.unmarked := by
  rw [snd_accept] at rejected ⊢
  cases decoded : decodeAnswer frame response mid with
  | error e => rfl
  | ok received =>
    rw [decoded] at rejected
    cases signing : s.signer with
    | none =>
      rw [signing] at rejected
      exact absurd (isAnswer_checkStatus received.header) (Bool.eq_false_iff.mp rejected)
    | some signer =>
      rw [signing] at rejected
      dsimp only at rejected ⊢
      split at rejected
      next => exact absurd (isAnswer_checkStatus received.header) (Bool.eq_false_iff.mp rejected)
      next failed => rw [if_neg failed]; rfl

theorem acceptAll_append (earlier later : List Bytes) (s : Session) (response : Message)
    (mid : UInt16) :
    (acceptAll mid (earlier ++ later) s response).2 =
      (acceptAll mid later (acceptAll mid earlier s response).2.1
        (acceptAll mid earlier s response).2.2).2 := by
  induction earlier generalizing s response with
  | nil => rfl
  | cons frame earlier ih => exact ih _ _

/-- Frames change neither the signer nor the number that a response is signed with. -/
theorem acceptAll_kept (frames : List Bytes) (s : Session) (response : Message) (mid : UInt16) :
    (acceptAll mid frames s response).2.1.signer = s.signer ∧
      (acceptAll mid frames s response).2.2.signSeq = response.signSeq := by
  induction frames generalizing s response with
  | nil => exact ⟨rfl, rfl⟩
  | cons frame frames ih =>
    obtain ⟨signer, signSeq⟩ :=
      ih (s.accept frame response mid).1 (s.accept frame response mid).2.1
    exact ⟨signer.trans (signer_accept s frame response mid),
      signSeq.trans (accept_cases s frame response mid).1⟩

/-- The answers alone come out as they did among the other frames. -/
theorem acceptAll_replay {s' : Session} {response' : Message} (frames : List Bytes)
    (signer : s'.signer = s.signer) (same : response'.unmarked = response.unmarked) :
    let run := acceptAll mid frames s response
    let answers := run.1.filter (isAnswer ·.2)
    let replay := acceptAll mid (answers.map Prod.fst) s' response'
    replay.1 = answers ∧ replay.2.2.unmarked = run.2.2.unmarked := by
  induction frames generalizing s s' response response' with
  | nil => exact ⟨rfl, same⟩
  | cons frame frames ih =>
    obtain ⟨outcome, content⟩ := accept_congr signer same frame mid
    have kept : (s'.accept frame response' mid).1.signer =
        (s.accept frame response mid).1.signer := by
      rw [signer_accept, signer_accept, signer]
    cases answered : isAnswer (s.accept frame response mid).2.2 with
    | true =>
      obtain ⟨outcomes, later⟩ := ih kept content
      simp only [acceptAll, List.filter_cons, answered, if_true, List.map_cons, outcome]
      exact ⟨congrArg _ outcomes, later⟩
    | false =>
      -- A rejected frame is not replayed, and it left the response as the replay has it.
      have unchanged := accept_of_rejected answered
      simp only [acceptAll, List.filter_cons, answered, Bool.false_eq_true, if_false]
      exact ih (signer.trans (signer_accept s frame response mid).symm)
        (same.trans unchanged.symm)

/-- While signing is active, a response becomes something else only through a frame that carries the
signature of its number. -/
theorem accept_of_changed {signer : Signer} (signing : s.signer = some signer)
    (changed : (s.accept frame response mid).2.1.content ≠ response.content) :
    ∃ received, response.decode frame = (received, .ok ()) ∧
      received.signSeq = response.signSeq ∧
      signer.accepts Security.Md5.digest frame received = true ∧
      (s.accept frame response mid).2.1.content = received.content := by
  rw [snd_accept, signing] at changed ⊢
  cases decoded : decodeAnswer frame response mid with
  | error e =>
    rw [decoded] at changed
    exact absurd rfl changed
  | ok received =>
    rw [decoded] at changed
    dsimp only at changed ⊢
    split at changed
    next accepted =>
      obtain ⟨read, -⟩ := decodeAnswer_eq_ok_iff.mp decoded
      rw [if_pos accepted]
      exact ⟨received, read, (signSeq_decodeAnswer decoded).1, accepted, rfl⟩
    next => exact absurd rfl changed

/-- A frame that answers, and whose signature holds where one is asked for, is taken in. -/
theorem accept_of_valid {received : Message} (read : response.decode frame = (received, .ok ()))
    (answers : received.header.mid = mid)
    (accepted : received.header.ntStatus.isAuthFailure = false)
    (vouched : ∀ signer, s.signer = some signer →
      signer.accepts Security.Md5.digest frame received = true) :
    (s.accept frame response mid).2.1.unmarked = received.unmarked := by
  rw [snd_accept, decodeAnswer_eq_ok_iff.mpr ⟨read, answers, accepted⟩]
  cases signing : s.signer with
  | none => rfl
  | some signer =>
    simp only [vouched signer signing, if_true]
    rfl

/-- Whatever frames are taken into a response, those that were rejected might as well not have come:
the others alone come out the same and leave the same response, the outcome of the last check aside.
While signing is active, the next frame changes the response only if it carries the signature of the
response's number; and a frame that answers is not held back. -/
theorem acceptAll_answers (s : Session) (frames : List Bytes) (response : Message)
    (mid : UInt16) :
    let run := acceptAll mid frames s response
    let answers := run.1.filter (isAnswer ·.2)
    let replay := acceptAll mid (answers.map Prod.fst) s response
    (replay.1 = answers ∧ replay.2.2.unmarked = run.2.2.unmarked) ∧
    ∀ frame : Bytes,
      let next := acceptAll mid (frames ++ [frame]) s response
      (∀ signer, s.signer = some signer → next.2.2.content ≠ run.2.2.content →
        ∃ received, run.2.2.decode frame = (received, .ok ()) ∧
          signer.accepts Security.Md5.digest frame
            { received with signSeq := response.signSeq } = true ∧
          next.2.2.content = received.content) ∧
      ∀ received, run.2.2.decode frame = (received, .ok ()) → received.header.mid = mid →
        received.header.ntStatus.isAuthFailure = false →
        (∀ signer, s.signer = some signer →
          signer.accepts Security.Md5.digest frame received = true) →
        next.2.2.unmarked = received.unmarked := by
  refine ⟨acceptAll_replay frames rfl rfl, fun frame => ?_⟩
  obtain ⟨signer, signSeq⟩ := acceptAll_kept frames s response mid
  have step : (acceptAll mid (frames ++ [frame]) s response).2.2 =
      ((acceptAll mid frames s response).2.1.accept frame
        (acceptAll mid frames s response).2.2 mid).2.1 := by
    rw [acceptAll_append]
    rfl
  simp only [step]
  constructor
  · intro active signing changed
    obtain ⟨received, read, number, accepted, after⟩ :=
      accept_of_changed (signer.trans signing) changed
    refine ⟨received, read, ?_, after⟩
    rw [← number.trans signSeq]
    exact accepted
  · intro received read answers accepted vouched
    exact accept_of_valid read answers accepted fun active signing =>
      vouched active (signer.symm.trans signing)

end Session

end Smb1
