import Smb1.Proofs.Session.Operations
import Smb1.Session.Operation

/-! Signing over whole runs of a session. Requests and responses are numbered in pairs, and the key
stays until a logoff succeeds or a logon fails. -/
namespace Smb1.Session

open Std.Do
open SignatureUse

set_option mvcgen.warning false

variable {s : Session}

/-- What an operation does that neither logs a user on nor off. -/
theorem step_spec (operation : Operation)
    (stays : operation ≠ .logOff ∧ ∀ user tree challenge, operation ≠ .logOn user tree challenge)
    (before : Session) :
    ⦃fun s => ⌜Continues before s⌝⦄ operation.step ⦃anyway (Continues before)⦄ := by
  cases operation with
  | negotiate => exact discard_anyway (negotiate_spec before)
  | logOn user tree challenge => exact absurd rfl (stays.2 user tree challenge)
  | connectTree path => exact discard_anyway (connectTree_spec before path)
  | read fid offset buffer => exact discard_anyway (read_spec before fid offset buffer)
  | close fid => exact close_spec before fid
  | exchange request response => exact discard_anyway (exchange_spec before request response)
  | send request response => exact discard_anyway (send_spec before request response)
  | transact subcommand => exact discard_anyway (transact_spec before subcommand)
  | getReferrals path maxLevel => exact discard_anyway (getReferrals_spec before path maxLevel)
  | logOff => exact absurd rfl stays.1
  | meanwhile change =>
    mvcgen [Operation.step]
    rename_i continuing _
    exact continuing.of_eq rfl rfl

/-- A step that goes on from every session keeps its record numbered. -/
theorem isNumbered_of_continues {α : Type} {step : Step α}
    (goes : ∀ before, ⦃fun s => ⌜Continues before s⌝⦄ step ⦃anyway (Continues before)⦄) :
    ⦃fun s => ⌜s.IsNumbered⌝⦄ step ⦃anyway IsNumbered⦄ := by
  rw [triple_iff]
  intro s numbered
  have done := triple_iff.mp (goes s) s (.refl s)
  cases outcome : step s <;>
  · rw [outcome] at done
    exact done.numbered numbered

/-- The record stays numbered when signing ends. -/
theorem IsNumbered.unsigned (numbered : s.IsNumbered) : IsNumbered { s with signer := none } := by
  obtain ⟨key, numbered, -⟩ := numbered
  exact ⟨key, numbered, nofun⟩

theorem isNumbered_step (operation : Operation) :
    ⦃fun s => ⌜s.IsNumbered⌝⦄ operation.step ⦃anyway IsNumbered⦄ := by
  cases operation with
  | logOn user tree challenge =>
    exact logOn_spec user tree challenge startSigning_numbered
      (fun request response => isNumbered_of_continues (send_spec · request response))
      (fun _ _ => id) (fun _ => id) (fun _ => IsNumbered.unsigned)
  | logOff =>
    exact logOff_spec
      (fun request response => isNumbered_of_continues (exchange_spec · request response))
      (fun _ => IsNumbered.unsigned)
  | _ => exact isNumbered_of_continues (step_spec _ ⟨nofun, nofun⟩)

/-- While signing is active, the key stays unless a logon fails or a logoff does not. -/
theorem continues_step (operation : Operation) (signing : s.signer ≠ none) :
    ⦃fun s' => ⌜Continues s s'⌝⦄ operation.step
    ⦃post⟨fun _ s' => ⌜operation.endsSigning (.ok ()) = false → Continues s s'⌝,
      fun e s' => ⌜operation.endsSigning (.error e) = false → Continues s s'⌝⟩⦄ := by
  by_cases stays : operation ≠ .logOff ∧
      ∀ user tree challenge, operation ≠ .logOn user tree challenge
  · have done := step_spec operation stays s
    mvcgen [done]
    case vc2.pos.post.success => exact fun continuing _ => continuing
    case vc3.pos.post.except.handle => exact fun continuing _ => continuing
  cases operation with
  | logOn user tree challenge =>
    have done := logOn_spec (E := fun _ => True) user tree challenge
      (startSigning_signing s signing) (send_spec s)
      (fun _ _ continuing => continuing.of_eq rfl rfl) (fun _ _ => trivial) (fun _ _ => trivial)
    mvcgen [Operation.step, done]
    case vc2.neg.logOn.post.success => exact fun continuing _ => continuing
    case vc3.neg.logOn.post.except.handle => nofun
  | logOff =>
    have done := logOff_spec (Q := fun _ => True) (exchange_spec s) (fun _ _ => trivial)
    mvcgen [Operation.step, done]
    case vc2.neg.logOff.post.success => nofun
    case vc3.neg.logOff.post.except.handle => exact fun continuing _ => continuing
  | _ => exact absurd ⟨nofun, nofun⟩ stays

theorem perform_of_triple {P : Session → Prop} {operation : Operation}
    {Q : Except Error Unit → Session → Prop}
    (done : ⦃fun s => ⌜P s⌝⦄ operation.step
      ⦃post⟨fun _ s => ⌜Q (.ok ()) s⌝, fun e s => ⌜Q (.error e) s⌝⟩⦄) (start : P s) :
    Q (operation.perform s).1 (operation.perform s).2 := by
  have after := triple_iff.mp done s start
  unfold Operation.perform
  cases outcome : operation.step s <;>
  · rw [outcome] at after
    exact after

@[simp]
theorem map_fst_performAll (operations : List Operation) (s : Session) :
    (performAll operations s).1.map Prod.fst = operations := by
  induction operations generalizing s with
  | nil => rfl
  | cons operation operations ih => exact congrArg (operation :: ·) (ih _)

theorem performAll_append (earlier later : List Operation) (s : Session) :
    (performAll (earlier ++ later) s).2 = (performAll later (performAll earlier s).2).2 := by
  induction earlier generalizing s with
  | nil => rfl
  | cons operation earlier ih => exact ih _

/-- What each operation keeps under a condition on its outcome, a run keeps in which every outcome
meets it. -/
theorem performAll_invariant {P : Session → Prop} {Q : Operation × Except Error Unit → Prop}
    (preserved : ∀ (operation : Operation) (s : Session), P s →
      Q (operation, (operation.perform s).1) → P (operation.perform s).2)
    (start : P s) (operations : List Operation)
    (goes : ∀ performed ∈ (performAll operations s).1, Q performed) :
    P (performAll operations s).2 := by
  induction operations generalizing s with
  | nil => exact start
  | cons operation operations ih =>
    have first := preserved operation s start (goes _ List.mem_cons_self)
    exact ih first fun performed among => goes performed (List.mem_cons_of_mem _ among)

theorem isNumbered_performAll (numbered : s.IsNumbered) (operations : List Operation) :
    (performAll operations s).2.IsNumbered :=
  performAll_invariant (Q := fun _ => True)
    (fun operation _ numbered _ =>
      perform_of_triple (Q := fun _ => IsNumbered) (isNumbered_step operation) numbered)
    numbered operations fun _ _ => trivial

theorem isNumbered_start (connection : Connection) (config : Config) :
    (start connection config).IsNumbered := ⟨[], .nil, nofun⟩

/-- Whatever a server does, the requests that are signed between a start of signing and its end
take every second number, and a response is checked with the number behind that of the last request
that waits for one, which has its multiplex id. No response is taken in unchecked while signing is
active, and a request that cannot be encoded changes nothing. -/
theorem paired_performAll (connection : Connection) (config : Config)
    (operations : List Operation) :
    let s := (performAll operations (start connection config)).2
    (∃ key, Paired key s.signatures.reverse ∧ ∀ signer, s.signer = some signer →
      signer = ⟨key, UInt32.ofNat (2 * (requests s.signatures).length), .disabled⟩) ∧
    (∀ (before : Session) (x : Exchange) (frame : Bytes) (mid : UInt16)
      (after : Session × Exchange), before.signer ≠ none →
      Exchange.take frame mid (before, x) = .ok () after →
        after.1.signatures = .checked after.2.response :: before.signatures ∧
          after.2.response.verification = .passed) ∧
    ∀ (before : Session) (request response : Message) (e : Error),
      request.encode before.config before.maxBufferSize = .error e →
        post request before = .error e before ∧
          Exchange.transmit (before, ⟨request, response⟩) =
            .error e (before, ⟨request, response⟩) := by
  refine ⟨?_, fun _ _ _ _ _ => Exchange.signatures_of_take,
    fun before request response e failed => ?_⟩
  · obtain ⟨key, numbered, place⟩ :=
      isNumbered_performAll (isNumbered_start connection config) operations
    exact ⟨key, numbered.paired, place⟩
  · have prepared : ∀ awaited, prepare request awaited before = .error e before := by
      intro awaited
      simp only [prepare, bind, EStateM.bind, get_apply, ofExcept, failed]
      rfl
    constructor
    · simp only [post, bind, EStateM.bind, prepared]
    · simp only [Exchange.transmit, Exchange.onSession, bind, EStateM.bind, get_apply, prepared]

/-- A response of a server as it arrives. -/
def arriving (command : Command) (mid : UInt16) (status : UInt32) (signature : Octets 8)
    (body : Bytes) : Bytes :=
  let header := { (Header.ofIds command 0 0 0 mid).toResponse status with signature }
  let frame := header.encode ++ body
  Netbios.header Netbios.sessionMessage frame.length ++ frame

/-- A server that can sign offers its terms, accepts a logon with a signed response, and refuses the
next one with a response that is not signed. -/
def refusing : Connection :=
  .ofInput "" (
    arriving .negotiate 1 0 (Octets.zero 8)
      ([17, 0, 0, 7, 50, 0, 1, 0, 4, 65, 0, 0, 0, 0, 1, 0] ++ List.replicate 4 0 ++
        [84, 0, 0, 0] ++ List.replicate 10 0 ++ [8, 10, 0, 1, 2, 3, 4, 5, 6, 7, 8, 0, 0]) ++
    arriving .sessionSetupAndX 2 0 ⟨[195, 89, 178, 96, 149, 132, 197, 28], rfl⟩
      [3, 0xFF, 0, 0xDE, 0xDE, 0, 0, 3, 0, 0, 0, 0] ++
    arriving .sessionSetupAndX 3 0xC000006D (Octets.zero 8) [0, 0, 0]) none

def signingConfig : Config := { Config.standard 0 "" with signingEnabled := true }

def logon : Operation := .logOn ⟨"", "a", ""⟩ none (Octets.zero 8)

/-- A logon that starts signing signs one request and checks the response to it. -/
example : (performAll [.negotiate, logon] (start refusing signingConfig)).2.signatures.reverse.map
    (·.request?.isSome) = [true, false] := by decide +kernel

/-- While signing is active, it goes on with its key as long as no logon fails and no logoff
succeeds, whatever else fails. -/
theorem key_performAll {key : Bytes} (operations : List Operation)
    (signing : s.signer.map (·.key) = some key)
    (goes : ∀ performed ∈ (performAll operations s).1,
      performed.1.endsSigning performed.2 = false) :
    (performAll operations s).2.signer.map (·.key) = some key := by
  refine performAll_invariant (P := fun s => s.signer.map (·.key) = some key)
    (fun operation s signing stays => ?_) signing operations goes
  have active : s.signer ≠ none := by
    rintro silent
    rw [silent] at signing
    cases signing
  have continuing := perform_of_triple
    (Q := fun outcome s' => operation.endsSigning outcome = false → Continues s s')
    (continues_step operation active) (.refl s) stays
  exact continuing.key.trans signing

/-- A session that signs, and whose server has gone. -/
def deserted : Session :=
  { start (.ofInput "" [] none) (Config.standard 0 "") with signer := some (.ofKey [1, 2, 3]) }

theorem key_performAll_deserted :
    deserted.signer.map (·.key) = some [1, 2, 3] ∧
      (∀ performed ∈ (performAll [.close 1, .logOff] deserted).1,
        performed.1.endsSigning performed.2 = false) ∧
      (performAll [.close 1, .logOff] deserted).2.signer.map (·.key) = some [1, 2, 3] := by
  have goes : ∀ performed ∈ (performAll [.close 1, .logOff] deserted).1,
      performed.1.endsSigning performed.2 = false := by decide +kernel
  exact ⟨rfl, goes, key_performAll [.close 1, .logOff] rfl goes⟩

/-- The first logon starts signing, and the second one ends it. -/
theorem isSigning_refusing :
    (performAll [.negotiate, logon] (start refusing signingConfig)).2.isSigning = true ∧
      (performAll [.negotiate, logon, logon] (start refusing signingConfig)).2.isSigning =
        false := by
  decide +kernel

/-- A logon that is refused ends the signing of an earlier one. -/
theorem signer_performAll_refusing :
    ¬∀ (connection : Connection) (config : Config) (earlier later : List Operation) (key : Bytes),
      (performAll earlier (start connection config)).2.signer.map (·.key) = some key →
      (∀ performed ∈ (performAll later (performAll earlier (start connection config)).2).1,
        performed.1 ≠ .logOff) →
      (performAll later (performAll earlier (start connection config)).2).2.signer.map (·.key) =
        some key := by
  intro stays
  obtain ⟨signs, silent⟩ := isSigning_refusing
  obtain ⟨signer, active⟩ := Option.isSome_iff_exists.mp signs
  have kept := stays refusing signingConfig [.negotiate, logon] [logon] signer.key
    (by rw [active]; rfl) (by
      intro performed among
      have named := List.mem_map_of_mem (f := Prod.fst) among
      rw [map_fst_performAll, List.mem_singleton] at named
      rw [named]
      exact nofun)
  rw [← performAll_append] at kept
  have ended := Option.isSome_eq_false_iff.mp silent
  rw [Option.isNone_iff_eq_none] at ended
  rw [List.cons_append, List.cons_append, List.nil_append, ended] at kept
  cases kept

end Smb1.Session
