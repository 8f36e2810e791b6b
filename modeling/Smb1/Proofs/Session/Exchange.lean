import Smb1.Proofs.Message.Decoding
import Smb1.Proofs.Message.RoundTrip
import Smb1.Proofs.Session.Pairing
import Smb1.Proofs.Session.Triple

/-! What an exchange does to the signer of a session: its request takes the next number, and what
comes as a response is checked with the number behind it, however often a frame comes. -/
namespace Smb1.Session

open Std.Do
open SignatureUse

set_option mvcgen.warning false

/-- The record is numbered, and the signer goes on where it ends. -/
def IsNumbered (s : Session) : Prop :=
  ∃ key, Numbered key s.signatures ∧ ∀ signer, s.signer = some signer →
    signer = ⟨key, UInt32.ofNat (2 * (requests s.signatures).length), .disabled⟩

/-- A later session signs with the key of an earlier one, if at all, and counts on. -/
structure Continues (before s : Session) : Prop where
  key : s.signer.map (·.key) = before.signer.map (·.key)
  numbered : before.IsNumbered → s.IsNumbered

/-- While signing is active, the last request that waits for a response has a multiplex id, and its
response is signed with a number. -/
def Awaits (s : Session) (mid : UInt16) (sequence : UInt32) : Prop :=
  s.signer ≠ none → ∃ sent, awaited? s.signatures = some sent ∧
    sent.request.header.mid = mid ∧ sent.responseSeq = some sequence

variable {before s : Session}

theorem Continues.refl (s : Session) : Continues s s := ⟨rfl, id⟩

/-- Only the signer and its record matter. -/
theorem Continues.of_eq {s' : Session} (continuing : Continues before s)
    (signer : s'.signer = s.signer) (signatures : s'.signatures = s.signatures) :
    Continues before s' := by
  obtain ⟨key, numbered⟩ := continuing
  simp only [IsNumbered, ← signer, ← signatures] at key numbered
  exact ⟨key, numbered⟩

/-- A request that is signed takes the next number. -/
theorem Continues.signed (continuing : Continues before s) {signer : Signer} {plain : Bytes}
    {written : Signer.Signed} (sent : Outbound) (awaited : Bool) (signing : s.signer = some signer)
    (sign : signer.sign Security.Md5.digest plain 0 plain.length = .ok written)
    (signSeq : sent.request.signSeq = written.requestSeq)
    (responseSeq : sent.responseSeq = some written.responseSeq)
    (frame : sent.frame = written.buffer) :
    Continues before { s with
      signer := some written.signer
      signatures := .signed sent awaited :: s.signatures } := by
  obtain ⟨requestSeq, nextSeq, after⟩ := Signer.sign_eq_ok sign
  refine ⟨?_, fun numbered => ?_⟩
  · rw [← continuing.key, signing, after]
    rfl
  · obtain ⟨key, numbered, place⟩ := continuing.numbered numbered
    obtain rfl := place signer signing
    have due : sent.IsSigned key (requests s.signatures).length := by
      refine ⟨signSeq.trans requestSeq, ?_, plain, written, sign, frame⟩
      rw [responseSeq, nextSeq]
      simp
    refine ⟨key, numbered.signed due, ?_⟩
    rintro _ ⟨⟩
    rw [after]
    simp [Nat.mul_succ]

/-- A response is checked with the number that it is awaited with. -/
theorem Continues.checked (continuing : Continues before s) {mid : UInt16} {response : Message}
    (signing : s.signer ≠ none) (awaits : s.Awaits mid response.signSeq)
    (answers : response.header.mid = mid) :
    Continues before { s with signatures := .checked response :: s.signatures } := by
  obtain ⟨sent, awaited, same, due⟩ := awaits signing
  refine ⟨continuing.key, fun numbered => ?_⟩
  obtain ⟨key, numbered, place⟩ := continuing.numbered numbered
  exact ⟨key, numbered.checked awaited (answers.trans same.symm) due, place⟩

theorem signSeq_decodeAnswer {frame : Bytes} {response received : Message} {mid : UInt16}
    (h : decodeAnswer frame response mid = .ok received) :
    received.signSeq = response.signSeq ∧ received.header.mid = mid := by
  unfold decodeAnswer at h
  split at h
  · cases h
  · rename_i decoded
    split at h
    · cases h
    · rename_i same
      split at h
      · cases h
      · cases h
        obtain ⟨_, _, _, _, _, _, _, -, -, -, -, rfl⟩ := Message.decode_eq_ok_iff.mp decoded
        exact ⟨rfl, not_not.mp same⟩

/-- Accepting a frame leaves the session as it is, or checks a response. -/
theorem accept_cases (s : Session) (frame : Bytes) (response : Message) (mid : UInt16) :
    (s.accept frame response mid).2.1.signSeq = response.signSeq ∧
      ((s.accept frame response mid).1 = s ∨ s.signer ≠ none ∧
        ∃ checked : Message, checked.signSeq = response.signSeq ∧ checked.header.mid = mid ∧
          (s.accept frame response mid).1 =
            { s with signatures := .checked checked :: s.signatures }) := by
  cases decoded : decodeAnswer frame response mid with
  | error e => simp [accept, decoded]
  | ok received =>
    obtain ⟨signSeq, answers⟩ := signSeq_decodeAnswer decoded
    cases signing : s.signer with
    | none => simp [accept, decoded, verify, signing, signSeq]
    | some signer =>
      rcases verified : signer.verify Security.Md5.digest frame received with ⟨checked, passed⟩
      have same : checked.signSeq = received.signSeq ∧ checked.header = received.header := by
        cases verified
        exact ⟨rfl, rfl⟩
      have session : (s.accept frame response mid).1 =
          { s with signatures := .checked checked :: s.signatures } := by
        cases passed <;> simp [accept, decoded, verify, signing, verified]
      have number : (s.accept frame response mid).2.1.signSeq = response.signSeq := by
        cases passed <;> simp [accept, decoded, verify, signing, verified, same, signSeq]
      rw [← signing]
      exact ⟨number, .inr ⟨by simp [signing], checked, same.1.trans signSeq,
        by rw [same.2, answers], session⟩⟩

variable (before)

theorem nextMid_spec : ⦃fun s => ⌜Continues before s⌝⦄ nextMid ⦃anyway (Continues before)⦄ := by
  mvcgen [nextMid]
  rename_i continuing _
  exact continuing.of_eq rfl rfl

/-- Preparing a request signs it as one that waits for a response. -/
theorem prepare_spec (request : Message) :
    ⦃fun s => ⌜Continues before s⌝⦄ prepare request true
    ⦃post⟨fun sent s => ⌜Continues before s ∧
        ∀ sequence, s.Awaits request.header.mid (sent.responseSeq.getD sequence)⌝,
      fun _ s => ⌜Continues before s⌝⟩⦄ := by
  mvcgen [prepare, ofExcept]
  case vc1.h_1.h_1 continuing _ _ unsigned =>
    exact ⟨continuing, fun _ signing => absurd unsigned signing⟩
  case vc2.h_1.h_2.h_1 continuing encoded encode signer signing signed sign sent =>
    obtain ⟨_, _, -, -, -, same⟩ := Message.encode_eq_ok encode
    refine ⟨continuing.signed sent true signing sign rfl rfl rfl, fun sequence _ => ?_⟩
    exact ⟨sent, rfl, by simp only [sent, same]; rfl, rfl⟩

/-- Sending a request that has no response of its own leaves open what another one waits for. -/
theorem post_spec (request : Message) (mid : UInt16) (sequence : UInt32) :
    ⦃fun s => ⌜Continues before s ∧ s.Awaits mid sequence⌝⦄ post request
    ⦃anyway fun s => Continues before s ∧ s.Awaits mid sequence⦄ := by
  mvcgen [post, prepare, write, ofExcept]
  -- The frame is written after it was signed; that touches neither the signer nor the record.
  case vc1.h_1.h_1 kept _ _ unsigned =>
    exact fun connection => ⟨fun _ => ⟨kept.1.of_eq rfl rfl, kept.2⟩,
      fun _ => ⟨kept.1.of_eq rfl rfl, kept.2⟩⟩
  case vc2.h_1.h_2.h_1 kept encoded encode signer signing signed sign sent =>
    obtain ⟨continuing, awaits⟩ := kept
    have going := continuing.signed sent false signing sign rfl rfl rfl
    exact fun connection => ⟨fun _ => ⟨going.of_eq rfl rfl, fun _ => awaits (signing ▸ nofun)⟩,
      fun _ => ⟨going.of_eq rfl rfl, fun _ => awaits (signing ▸ nofun)⟩⟩

namespace Exchange

/-- A session goes on from an earlier one and waits for a response that is signed with a number. -/
structure Waits (before : Session) (mid : UInt16) (sequence : UInt32) (st : Session × Exchange) :
    Prop where
  continues : Continues before st.1
  awaits : st.1.Awaits mid sequence
  expects : st.2.response.signSeq = sequence

theorem transmit_spec (mid : UInt16) :
    ⦃fun st => ⌜Continues before st.1 ∧ st.2.request.header.mid = mid⌝⦄ transmit
    ⦃post⟨fun _ st => ⌜Waits before mid st.2.response.signSeq st⌝,
      fun _ st => ⌜Continues before st.1⌝⟩⦄ := by
  have prepared := prepare_spec before
  mvcgen [transmit, write, prepared]
  case vc1.pre request => exact request.1
  case vc2.post.success request sent s signSeq done next =>
    obtain ⟨continuing, awaits⟩ := done
    exact fun connection => ⟨fun _ => ⟨continuing.of_eq rfl rfl, request.2 ▸ awaits _, rfl⟩,
      fun _ => continuing.of_eq rfl rfl⟩

variable (mid : UInt16) (sequence : UInt32)

theorem take_spec (frame : Bytes) :
    ⦃fun st => ⌜Waits before mid sequence st⌝⦄ take frame mid
    ⦃anyway (Waits before mid sequence)⦄ := by
  rw [triple_iff]
  rintro ⟨s, x⟩ ⟨continuing, awaits, expects⟩
  obtain ⟨signSeq, outcome⟩ := accept_cases s frame x.response mid
  have waits : Waits before mid sequence ((s.accept frame x.response mid).1,
      { x with response := (s.accept frame x.response mid).2.1 }) := by
    rcases outcome with same | ⟨signing, checked, number, answers, same⟩
    · rw [same]
      exact ⟨continuing, awaits, signSeq.trans expects⟩
    · rw [same]
      have due := continuing.checked signing ((number.trans expects).symm ▸ awaits) answers
      exact ⟨due, awaits, signSeq.trans expects⟩
  rcases taken : s.accept frame x.response mid with ⟨s', response, ⟨e⟩ | ⟨⟨⟩⟩⟩ <;>
  · rw [taken] at waits
    simp only [take, taken]
    exact waits

/-- While signing is active, a response that is taken in has passed its check. -/
theorem signatures_of_take {s : Session} {x : Exchange} {frame : Bytes} {mid : UInt16}
    {next : Session × Exchange} (signing : s.signer ≠ none)
    (taken : take frame mid (s, x) = .ok () next) :
    next.1.signatures = .checked next.2.response :: s.signatures ∧
      next.2.response.verification = .passed := by
  obtain ⟨signer, active⟩ := Option.ne_none_iff_exists'.mp signing
  cases decoded : decodeAnswer frame x.response mid with
  | error e => simp [take, accept, decoded] at taken
  | ok received =>
    cases passed : signer.accepts Security.Md5.digest frame received with
    | false => simp [take, accept, decoded, verify, active, Signer.verify, passed] at taken
    | true =>
      cases status : checkStatus received.header with
      | error e =>
        simp [take, accept, decoded, verify, active, Signer.verify, passed, status] at taken
      | ok _ =>
        simp only [take, accept, decoded, verify, active, Signer.verify, passed, if_true,
          status] at taken
        cases taken
        exact ⟨rfl, rfl⟩

theorem receive_spec :
    ⦃fun st => ⌜Waits before mid sequence st⌝⦄ receive mid
    ⦃anyway (Waits before mid sequence)⦄ := by
  have taken := take_spec before mid sequence
  mvcgen [receive]
  rename_i st waits
  intro connection
  have kept : Waits before mid sequence ({ st.1 with connection }, st.2) :=
    ⟨waits.continues.of_eq rfl rfl, waits.awaits, waits.expects⟩
  exact ⟨fun frame => taken frame _ kept, fun _ => kept⟩

/-- An answer assigns identifiers only. -/
theorem signing_track (s : Session) (header : Header) (body : Body) :
    (track s header body).signer = s.signer ∧ (track s header body).signatures = s.signatures := by
  cases body <;> exact ⟨rfl, rfl⟩

theorem signing_foldl_track (header : Header) (bodies : List Body) (s : Session) :
    (bodies.foldl (track · header) s).signer = s.signer ∧
      (bodies.foldl (track · header) s).signatures = s.signatures := by
  induction bodies generalizing s with
  | nil => exact ⟨rfl, rfl⟩
  | cons body bodies ih =>
    obtain ⟨signer, signatures⟩ := ih (track s header body)
    obtain ⟨first, second⟩ := signing_track s header body
    exact ⟨signer.trans first, signatures.trans second⟩

theorem trackAll_spec :
    ⦃fun st => ⌜Continues before st.1⌝⦄ trackAll ⦃anyway fun st => Continues before st.1⦄ := by
  mvcgen [trackAll]
  case vc1 st continuing _ =>
    obtain ⟨signer, signatures⟩ := signing_foldl_track st.2.response.header
      (st.2.response.bodies.take st.2.response.links) st.1
    exact continuing.of_eq signer signatures

theorem run_spec :
    ⦃fun st => ⌜Continues before st.1⌝⦄ run ⦃anyway fun st => Continues before st.1⦄ := by
  have numbered := nextMid_spec before
  have transmitted := transmit_spec before
  have received := receive_spec before
  have tracked := trackAll_spec before
  mvcgen [run, numbered, transmitted, received, tracked]
  case vc7.h_2.post.success.post.success.post.success waits => exact waits.continues
  case vc8.h_2.post.success.post.success.post.except.handle => exact Waits.continues

end Exchange

theorem exchange_spec (request response : Message) :
    ⦃fun s => ⌜Continues before s⌝⦄ exchange request response ⦃anyway (Continues before)⦄ := by
  have done := Exchange.run_spec before
  mvcgen [exchange, done]

theorem sendLinks_spec (frames : Nat) (request response : Message) (answers : List Body) :
    ⦃fun s => ⌜Continues before s⌝⦄ sendLinks frames request response answers
    ⦃anyway (Continues before)⦄ := by
  have exchanged := exchange_spec before
  induction frames generalizing request response answers with
  | zero => mvcgen [sendLinks]
  | succ frames ih => mvcgen [sendLinks, exchanged, ih]

theorem send_spec (request response : Message) :
    ⦃fun s => ⌜Continues before s⌝⦄ send request response ⦃anyway (Continues before)⦄ :=
  sendLinks_spec before _ _ _ _

end Smb1.Session
