import Smb1.Proofs.Session.Exchange
import Smb1.Session.File
import Smb1.Session.Logon
import Smb1.Session.Transact

/-! What the operations of a session do to its signer. All but a logon and a logoff leave the key as
it is, and all of them count on. -/
namespace Smb1.Session

open Std.Do
open SignatureUse Exchange

set_option mvcgen.warning false

variable (before : Session)

/-- Where the payload goes does not change the number that is expected. -/
theorem signSeq_readTemplates (response : Message) (split : Netbios.SplitFrame) :
    (readTemplates response split).signSeq = response.signSeq := by
  unfold readTemplates
  split <;> rfl

theorem readInto_spec (buffer : Bytes) (mid : UInt16) :
    ⦃fun st => ⌜Continues before st.1 ∧ st.2.request.header.mid = mid⌝⦄ readInto buffer mid
    ⦃anyway fun st => Continues before st.1⦄ := by
  have transmitted := transmit_spec before mid
  mvcgen [readInto, transmitted]
  case vc2.post.success st waits =>
    obtain ⟨continuing, awaits, expects⟩ := waits
    have taken := take_spec before mid st.2.response.signSeq
    refine fun connection => ⟨fun split => ?_, fun _ => continuing.of_eq rfl rfl⟩
    mvcgen [taken]
    case vc1.pre => exact ⟨continuing.of_eq rfl rfl, awaits, signSeq_readTemplates _ _⟩
    case vc2.post.success waits => exact waits.continues
    case vc3.post.except.handle => exact Waits.continues

theorem read_spec (fid : UInt16) (offset : UInt64) (buffer : Bytes) :
    ⦃fun s => ⌜Continues before s⌝⦄ read fid offset buffer ⦃anyway (Continues before)⦄ := by
  have numbered := nextMid_spec before
  have filled := readInto_spec before
  mvcgen [read, numbered, filled]

theorem close_spec (fid : UInt16) :
    ⦃fun s => ⌜Continues before s⌝⦄ close fid ⦃anyway (Continues before)⦄ := by
  have exchanged := exchange_spec before
  mvcgen [close, exchanged]

theorem receiveAll_spec (mid : UInt16) :
    ⦃fun st => ⌜Waits before mid st.2.response.signSeq st⌝⦄ receiveAll mid
    ⦃anyway fun st => Continues before st.1⦄ := by
  rw [triple_iff]
  intro st waits
  have received := triple_iff.mp (receive_spec before mid st.2.response.signSeq) st waits
  fun_induction receiveAll mid st with
  | case1 st e next failed =>
    rw [failed] at received
    exact received.continues
  | case2 st next done complete =>
    rw [done] at received
    exact received.continues
  | case3 st next done incomplete ih =>
    rw [done] at received
    have waits : Waits before mid next.2.response.signSeq next := received.expects ▸ received
    exact ih waits (triple_iff.mp (receive_spec before mid _) next waits)

theorem postFrames_spec (mid : UInt16) (sequence : UInt32)
    (frames : List (Except Error Transaction.RequestFrame)) :
    ⦃fun s => ⌜Continues before s ∧ s.Awaits mid sequence⌝⦄ postFrames mid frames
    ⦃anyway fun s => Continues before s ∧ s.Awaits mid sequence⦄ := by
  have posted := fun request => post_spec before request mid sequence
  induction frames with
  | nil => mvcgen [postFrames]
  | cons frame frames ih => mvcgen [postFrames, frameRequest, ofExcept, posted, ih]

theorem sendRest_spec (rest : Transaction.Outgoing) (mid : UInt16) (sequence : UInt32) :
    ⦃fun s => ⌜Continues before s ∧ s.Awaits mid sequence⌝⦄ sendRest rest sequence mid
    ⦃anyway fun s => Continues before s ∧ s.Awaits mid sequence⦄ := by
  have received := receive_spec before mid sequence
  have posted := postFrames_spec before mid sequence
  mvcgen [sendRest, received, posted]
  case vc1.pre waiting => exact ⟨waiting.1, waiting.2, rfl⟩
  case vc2.post.success waits => exact ⟨waits.continues, waits.awaits⟩
  case vc3.post.except.handle => exact fun waits => ⟨waits.continues, waits.awaits⟩

theorem transact_exchange_spec (rest : Transaction.Outgoing) (mid : UInt16) :
    ⦃fun st => ⌜Continues before st.1 ∧ st.2.request.header.mid = mid⌝⦄
      Exchange.transact rest mid
    ⦃anyway fun st => Continues before st.1⦄ := by
  have transmitted := transmit_spec before mid
  have sent := sendRest_spec before rest mid
  have received := receiveAll_spec before mid
  mvcgen [Exchange.transact, transmitted, sent, received]
  case vc2.post.success.isTrue.pre waits => exact ⟨waits.continues, waits.awaits⟩
  case vc3.post.success.isTrue.post.success kept => exact ⟨kept.1, kept.2, rfl⟩
  case vc4.post.success.isTrue.post.except.handle => exact fun continuing _ => continuing

theorem transact_spec (subcommand : Transaction.Subcommand) :
    ⦃fun s => ⌜Continues before s⌝⦄ transact subcommand ⦃anyway (Continues before)⦄ := by
  have numbered := nextMid_spec before
  have done := transact_exchange_spec before
  mvcgen [transact, frameRequest, ofExcept, numbered, done]

theorem getReferrals_spec (path : String) (maxLevel : UInt16) :
    ⦃fun s => ⌜Continues before s⌝⦄ getReferrals path maxLevel ⦃anyway (Continues before)⦄ := by
  have done := transact_spec before
  mvcgen [getReferrals, done]

theorem negotiate_spec : ⦃fun s => ⌜Continues before s⌝⦄ negotiate ⦃anyway (Continues before)⦄ := by
  have exchanged := exchange_spec before
  mvcgen [negotiate, lastAnswer, exchanged]
  case vc3.post.success.h_1.h_2 continuing server picked accepted _ =>
    exact continuing.of_eq rfl rfl

theorem connectTree_spec (path : String) :
    ⦃fun s => ⌜Continues before s⌝⦄ connectTree path ⦃anyway (Continues before)⦄ := by
  have sent := send_spec before
  mvcgen [connectTree, lastAnswer, sent]

/-- Signing starts with a new key and the first number. -/
theorem startSigning_numbered (a : Authentication) :
    ⦃fun s => ⌜s.IsNumbered⌝⦄ startSigning a ⦃anyway IsNumbered⦄ := by
  mvcgen [startSigning, ofExcept]
  case vc1.isTrue.h_1 signer made =>
    obtain ⟨key, -, rfl⟩ := Signer.ofAuthentication_eq_ok made
    refine ⟨key, .nil, ?_⟩
    rintro _ ⟨⟩
    rfl

/-- Signing that has started before goes on with its key. -/
theorem startSigning_signing (signing : before.signer ≠ none) (a : Authentication) :
    ⦃fun s => ⌜Continues before s⌝⦄ startSigning a ⦃anyway (Continues before)⦄ := by
  mvcgen [startSigning, ofExcept]
  case vc1.isTrue.h_1 s continuing unsigned signer made =>
    simp only [isSigning, Bool.and_eq_true, Bool.not_eq_true', Option.isSome_eq_false_iff,
      Option.isNone_iff_eq_none] at unsigned
    have silent : s.signer = none := unsigned.1.2
    have key := continuing.key
    rw [silent] at key
    exact absurd (Option.map_eq_none_iff.mp key.symm) signing

/-- A logon keeps what its parts keep. One that fails may have ended signing. -/
theorem logOn_spec {P E : Session → Prop} (user : User) (tree : Option String)
    (clientChallenge : Octets 8)
    (started : ∀ a, ⦃fun s => ⌜P s⌝⦄ startSigning a ⦃anyway P⦄)
    (sent : ∀ request response, ⦃fun s => ⌜P s⌝⦄ send request response ⦃anyway P⦄)
    (named : ∀ s user, P s → P { s with user }) (failed : ∀ s, P s → E s)
    (ended : ∀ s, P s → E { s with signer := none }) :
    ⦃fun s => ⌜P s⌝⦄ logOn user tree clientChallenge
    ⦃post⟨fun _ s => ⌜P s⌝, fun _ s => ⌜E s⌝⟩⦄ := by
  mvcgen [logOn, ofExcept, started, sent]
  case vc1.h_1 kept _ => exact failed _ kept
  case vc4.h_2.h_1.post.success.post.success kept _ => exact named _ _ kept
  case vc5.h_2.h_1.post.success.post.except.handle kept _ => exact ended _ kept
  case vc6.h_2.h_1.post.except.handle => exact failed _
  case vc7.h_2.h_2 kept _ _ _ _ _ => exact failed _ kept

/-- A logoff that fails keeps what an exchange keeps. -/
theorem logOff_spec {P Q : Session → Prop}
    (exchanged : ∀ request response, ⦃fun s => ⌜P s⌝⦄ exchange request response ⦃anyway P⦄)
    (ended : ∀ s, P s → Q s.loggedOff) :
    ⦃fun s => ⌜P s⌝⦄ logOff ⦃post⟨fun _ s => ⌜Q s⌝, fun _ s => ⌜P s⌝⟩⦄ := by
  mvcgen [logOff, exchanged]
  case vc2.post.success kept _ => exact ended _ kept

end Smb1.Session
