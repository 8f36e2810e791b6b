import Smb1.Proofs.Message.Extends
import Smb1.Proofs.Transaction.Faultless

/-! Bodies and links are read without a fault, whatever counts and offsets they hold. Parameter
words and data bytes are read from a place in the message; a count that leads behind it, like an
offset, is a 16-bit number. -/
namespace Smb1

open Wire Transaction

variable {near : Nat} {r : Reader}

/-- How far behind a message the 16-bit numbers in it may lead. -/
def reach : Nat := 0xFFFF

theorem fits_of_le_reach {count : Nat} (few : count ≤ reach) : 0 + count ≤ memoryLimit := by
  rw [Nat.zero_add]
  exact Nat.le_of_lt (lt_memoryLimit few)

theorem toNat_lt_memoryLimit (length : UInt16) : length.toNat < memoryLimit :=
  lt_memoryLimit (Nat.le_of_lt_succ length.toNat_lt)

theorem fits_of_lt {length : Nat} (short : length < memoryLimit) : 0 + length ≤ memoryLimit := by
  rw [Nat.zero_add]
  exact Nat.le_of_lt short

/-- Byte strings as they can be held. -/
def InMemory (held : List Bytes) : Prop := ∀ bytes ∈ held, bytes.length < memoryLimit

theorem inMemory_cons {bytes : Bytes} {held : List Bytes} :
    InMemory (bytes :: held) ↔ bytes.length < memoryLimit ∧ InMemory held :=
  List.forall_mem_cons

theorem InMemory.nil : InMemory [] := List.forall_mem_nil _

theorem InMemory.zeros (length : UInt16) {held : List Bytes} (rest : InMemory held) :
    InMemory (List.replicate length.toNat 0 :: held) := by
  refine inMemory_cons.mpr ⟨?_, rest⟩
  rw [List.length_replicate]
  exact toNat_lt_memoryLimit length

namespace NegotiateRequest

theorem safe_dialectsUpTo (limit count : Nat) : Safe 0 0 (dialectsUpTo limit count) r := by
  induction count generalizing r with
  | zero => exact .pure
  | succ count ih =>
    refine .bind .position fun _ _ => .ite (.bind .u8 fun _ _ => .ite (.refused rfl) ?_) .pure
    exact .bind .oemString fun _ _ => .bind ih fun _ _ => .pure

theorem safe_readBytes (b : NegotiateRequest) {count : Nat} (few : count ≤ reach) :
    Safe 0 0 (b.readBytes count) r :=
  .bind (.ahead (fits_of_le_reach few)) fun _ _ => .bind (safe_dialectsUpTo _ _) fun _ _ => .pure

end NegotiateRequest

namespace NegotiateResponse

theorem safe_readWords (b : NegotiateResponse) (count : UInt8) :
    Safe 0 0 (b.readWords count) r := by
  refine .bind .u16 fun _ _ => .bind .u8 fun _ _ => .bind .u16 fun _ _ => .bind .u16 fun _ _ => ?_
  refine .bind .u32 fun _ _ => .bind .u32 fun _ _ => .bind .u32 fun _ _ => .bind .u32 fun _ _ => ?_
  exact .bind .u64 fun _ _ => .bind .u16 fun _ _ => .bind .u8 fun _ _ => .pure

theorem safe_readBytes (b : NegotiateResponse) {count : Nat} (few : count ≤ reach) :
    Safe 0 0 (b.readBytes count) r := by
  refine .bind (.ahead (fits_of_le_reach few)) fun _ _ => .ite ?_ ?_
  · refine .bind (.octets (by decide)) fun _ _ => ?_
    exact .bind (.take (fits_of_le_reach (Nat.le_trans (Nat.sub_le ..) few))) fun _ _ => .pure
  · have small : b.challengeLength.toNat ≤ reach :=
      Nat.le_trans (Nat.le_of_lt b.challengeLength.toNat_lt) (by decide)
    refine .bind (.take (fits_of_le_reach small)) fun _ _ => ?_
    refine .bind (.stringUnaligned (by decide)) fun _ _ => .bind .position fun _ _ => ?_
    exact .ite (.bind (.stringUnaligned (by decide)) fun _ _ => .pure) .pure

end NegotiateResponse

namespace SessionSetupRequest

theorem safe_readWords (b : SessionSetupRequest) (count : UInt8) :
    Safe 0 0 (b.readWords count) r := by
  refine .bind .u16 fun _ _ => .bind .u16 fun _ _ => .bind .u16 fun _ _ => .bind .u32 fun _ _ => ?_
  refine .ite (.bind .u16 fun _ _ => .bind .pure fun _ _ => ?_)
    (.bind .u16 fun _ _ => .bind .u16 fun _ _ => .bind .pure fun _ _ => ?_)
  all_goals
    refine .bind (.skip (by decide)) fun _ _ => ?_
    exact .bind (.u32_near (by decide)) fun _ _ => .pure

/-- The bytes of a template, as many of which are read. -/
def held (b : SessionSetupRequest) : List Bytes :=
  [b.securityBlob.getD [], b.caseInsensitivePassword, b.caseSensitivePassword]

theorem inMemory_readWords {b : SessionSetupRequest} (memory : InMemory b.held) (count : UInt8) :
    Gives (fun b' => InMemory b'.held) (b.readWords count) := by
  have ⟨blob, passwords⟩ := inMemory_cons.mp memory
  refine .bind fun _ => .bind fun _ => .bind fun _ => .bind fun _ => .ite ?_ ?_
  · refine .bind fun length => .pass (.bind fun _ => .bind fun _ => .pure ?_)
    exact .zeros length passwords
  · refine .bind fun first => .bind fun second => .pass (.bind fun _ => .bind fun _ => .pure ?_)
    exact inMemory_cons.mpr ⟨blob, .zeros first (.zeros second .nil)⟩

theorem safe_readBytes (b : SessionSetupRequest) {count : Nat} (few : count ≤ reach)
    (memory : InMemory b.held) : Safe 0 8 (b.readBytes count) r := by
  have ⟨short, passwords⟩ := inMemory_cons.mp memory
  have ⟨insensitive, rest⟩ := inMemory_cons.mp passwords
  have ⟨sensitive, _⟩ := inMemory_cons.mp rest
  refine .bind (.ahead (fits_of_le_reach few)) fun _ _ => ?_
  cases blob : b.securityBlob with
  | some bytes =>
    rw [blob] at short
    refine .bind (.take (fits_of_lt short)) fun _ _ => .bind .pure fun _ _ => ?_
    refine .bind (.string (by decide)) fun _ _ => .bind (.string (by decide)) fun _ _ => ?_
    exact Safe.pure.mono (by decide)
  | none =>
    refine .bind (.take (fits_of_lt insensitive)) fun _ _ => ?_
    refine .bind (.take (fits_of_lt sensitive)) fun _ _ => .bind (.string (by decide)) fun _ _ => ?_
    refine .bind (.string (by decide)) fun _ _ => .bind .pure fun _ _ => ?_
    exact .bind (.string (by decide)) fun _ _ => .bind (.string (by decide)) fun _ _ => .pure

theorem inMemory_readBytes {b : SessionSetupRequest} (memory : InMemory b.held) (count : Nat) :
    Gives (fun b' => InMemory b'.held) (b.readBytes count) := by
  have ⟨short, passwords⟩ := inMemory_cons.mp memory
  have ⟨insensitive, rest⟩ := inMemory_cons.mp passwords
  have ⟨sensitive, _⟩ := inMemory_cons.mp rest
  refine .bind fun _ => ?_
  cases blob : b.securityBlob with
  | some bytes =>
    rw [blob] at short
    refine .bindOf .take fun taken same => .pass (.bind fun _ => .bind fun _ => .pure ?_)
    exact inMemory_cons.mpr ⟨same.trans_lt short, passwords⟩
  | none =>
    rw [blob] at short
    refine .bindOf .take fun first firstSame => .bindOf .take fun second secondSame => ?_
    refine .bind fun _ => .bind fun _ => .pass (.bind fun _ => .bind fun _ => .pure ?_)
    refine inMemory_cons.mpr ⟨short, inMemory_cons.mpr ⟨firstSame.trans_lt insensitive, ?_⟩⟩
    exact inMemory_cons.mpr ⟨secondSame.trans_lt sensitive, .nil⟩

end SessionSetupRequest

namespace SessionSetupResponse

theorem safe_readWords (b : SessionSetupResponse) (count : UInt8) :
    Safe 0 0 (b.readWords count) r :=
  .bind .u16 fun _ _ => .ite (.bind .u16 fun _ _ => .pure) .pure

/-- The bytes of a template, as many of which are read. -/
def held (b : SessionSetupResponse) : List Bytes := [b.securityBlob.getD []]

theorem inMemory_readWords {b : SessionSetupResponse} (memory : InMemory b.held) (count : UInt8) :
    Gives (fun b' => InMemory b'.held) (b.readWords count) :=
  .bind fun _ => .ite (.bind fun length => .pure (.zeros length .nil)) (.pure memory)

theorem safe_trailing (limit : Nat) (template : String) (fits : near + 2 + 2 ≤ memoryLimit) :
    Safe near (near + 2) (trailing limit template) r :=
  .bind .position fun _ _ => .ite (.stringOrEmpty fits) (Safe.pure.mono (Nat.le_add_right ..))

theorem safe_readBytes (b : SessionSetupResponse) {count : Nat} (few : count ≤ reach)
    (memory : InMemory b.held) : Safe 0 6 (b.readBytes count) r := by
  refine .bind (.ahead (fits_of_le_reach few)) fun limit _ => ?_
  have names {r : Reader} (b : SessionSetupResponse) (securityBlob : Option Bytes) : Safe 0 6 (do
      let nativeOs ← trailing limit b.nativeOs
      let nativeLanman ← trailing limit b.nativeLanman
      let primaryDomain ← trailing limit b.primaryDomain
      pure { b with securityBlob, nativeOs, nativeLanman, primaryDomain }) r := by
    refine .bind (safe_trailing _ _ (by decide)) fun _ _ => ?_
    refine .bind (safe_trailing _ _ (by decide)) fun _ _ => ?_
    exact .bind (safe_trailing _ _ (by decide)) fun _ _ => .pure
  cases blob : b.securityBlob with
  | some bytes =>
    have short := (inMemory_cons.mp memory).1
    rw [blob] at short
    exact .bind (.map (.take (fits_of_lt short))) fun _ _ => names b _
  | none => exact .bind .pure fun _ _ => names b _

theorem inMemory_readBytes {b : SessionSetupResponse} (memory : InMemory b.held) (count : Nat) :
    Gives (fun b' => InMemory b'.held) (b.readBytes count) := by
  refine .bind fun limit => ?_
  have names (securityBlob : Option Bytes) (short : InMemory [securityBlob.getD []]) :
      Gives (fun b' => InMemory b'.held) (do
        let nativeOs ← trailing limit b.nativeOs
        let nativeLanman ← trailing limit b.nativeLanman
        let primaryDomain ← trailing limit b.primaryDomain
        pure { b with securityBlob, nativeOs, nativeLanman, primaryDomain }) :=
    .bind fun _ => .bind fun _ => .bind fun _ => .pure short
  cases blob : b.securityBlob with
  | some bytes =>
    have short := (inMemory_cons.mp memory).1
    rw [blob] at short
    have read : Gives (fun taken => InMemory [taken.getD []])
        (some <$> Decoder.take bytes.length) :=
      .map (Gives.take.imp fun taken same => inMemory_cons.mpr ⟨same.trans_lt short, .nil⟩)
    exact .bindOf read names
  | none => exact .pass (names none (by rw [← blob]; exact memory))

end SessionSetupResponse

namespace TreeConnectRequest

theorem safe_readWords (b : TreeConnectRequest) (count : UInt8) :
    Safe 0 0 (b.readWords count) r := .bind .u16 fun _ _ => .bind .u16 fun _ _ => .pure

/-- The bytes of a template, as many of which are read. -/
def held (b : TreeConnectRequest) : List Bytes := [b.password]

theorem inMemory_readWords (b : TreeConnectRequest) (count : UInt8) :
    Gives (fun b' => InMemory b'.held) (b.readWords count) :=
  .bind fun _ => .bind fun length => .pure (.zeros length .nil)

theorem safe_readBytes (b : TreeConnectRequest) {count : Nat} (few : count ≤ reach)
    (memory : InMemory b.held) : Safe 0 2 (b.readBytes count) r := by
  have short := (inMemory_cons.mp memory).1
  refine .bind (.ahead (fits_of_le_reach few)) fun _ _ => ?_
  refine .bind (.take (fits_of_lt short)) fun _ _ => .bind (.string (by decide)) fun _ _ => ?_
  exact .bind .oemString fun _ _ => .pure

theorem inMemory_readBytes {b : TreeConnectRequest} (memory : InMemory b.held) (count : Nat) :
    Gives (fun b' => InMemory b'.held) (b.readBytes count) := by
  have short := (inMemory_cons.mp memory).1
  refine .bind fun _ => .bindOf .take fun password same => .bind fun _ => .bind fun _ => .pure ?_
  exact inMemory_cons.mpr ⟨same.trans_lt short, .nil⟩

end TreeConnectRequest

namespace TreeConnectResponse

theorem safe_readWords (b : TreeConnectResponse) (count : UInt8) :
    Safe 0 0 (b.readWords count) r :=
  .bind .u16 fun _ _ => .ite (.bind .u32 fun _ _ => .bind .u32 fun _ _ => .pure) .pure

theorem safe_readBytes (b : TreeConnectResponse) {count : Nat} (few : count ≤ reach) :
    Safe 0 2 (b.readBytes count) r := by
  refine .bind (.ahead (fits_of_le_reach few)) fun _ _ => .bind .oemString fun _ _ => ?_
  refine .bind .position fun _ _ => .ite (.bind (.stringOrEmpty (by decide)) fun _ _ => .pure) ?_
  exact Safe.pure.mono (by decide)

end TreeConnectResponse

namespace CreateRequest

theorem safe_readWords (b : CreateRequest) (count : UInt8) :
    Safe 0 0 (b.readWords count) r := by
  refine .bind (.skip (by decide)) fun _ _ => .bind (.u16_near (by decide)) fun _ _ => ?_
  refine .bind .u32 fun _ _ => .bind .u32 fun _ _ => ?_
  refine .bind .u32 fun _ _ => .bind .u64 fun _ _ => .bind .u32 fun _ _ => .bind .u32 fun _ _ => ?_
  refine .bind .u32 fun _ _ => .bind .u32 fun _ _ => .bind .u32 fun _ _ => ?_
  exact .bind .u8 fun _ _ => .pure

theorem safe_readBytes (b : CreateRequest) {count : Nat} (few : count ≤ reach) :
    Safe 0 2 (b.readBytes count) r :=
  .bind (.ahead (fits_of_le_reach few)) fun _ _ => .bind (.string (by decide)) fun _ _ => .pure

end CreateRequest

namespace CreateResponse

theorem safe_readWords (b : CreateResponse) (count : UInt8) :
    Safe 0 0 (b.readWords count) r := by
  refine .bind .u8 fun _ _ => .bind .u16 fun _ _ => .bind .u32 fun _ _ => .bind .u64 fun _ _ => ?_
  refine .bind .u64 fun _ _ => .bind .u64 fun _ _ => .bind .u64 fun _ _ => .bind .u32 fun _ _ => ?_
  refine .bind .u64 fun _ _ => .bind .u64 fun _ _ => .bind .u16 fun _ _ => .bind .u16 fun _ _ => ?_
  refine .bind .u8 fun _ _ => .ite ?_ .pure
  refine .bind (.octets (by decide)) fun _ _ => .bind .u64 fun _ _ => .bind .u32 fun _ _ => ?_
  exact .bind .u32 fun _ _ => .pure

end CreateResponse

namespace ReadRequest

theorem safe_readWords (b : ReadRequest) (count : UInt8) :
    Safe 0 0 (b.readWords count) r := by
  refine .bind .u16 fun _ _ => .bind .u32 fun _ _ => .bind .u16 fun _ _ => .bind .u16 fun _ _ => ?_
  refine .bind .u32 fun _ _ => .bind .u16 fun _ _ => .ite (.bind .u32 fun _ _ => ?_)
    (.bind .pure fun _ _ => ?_)
  all_goals exact .pure

end ReadRequest

namespace ReadResponse

theorem safe_readWords (b : ReadResponse) (count : UInt8) :
    Safe 0 8 (b.readWords count) r := by
  refine .bind .u16 fun _ _ => .bind .u16 fun _ _ => .bind (.skip (by decide)) fun _ _ => ?_
  refine .bind (.u16_near (by decide)) fun _ _ => .bind .u16 fun _ _ => .bind .u16 fun _ _ => ?_
  exact .bind (.skip (by decide)) fun _ _ => .pure

theorem safe_readBytes (b : ReadResponse) (count : Nat) : Safe 0 0 (b.readBytes count) r := by
  obtain ⟨_, _, _, _, _, detached⟩ := b
  cases detached with
  | true => exact .pure
  | false => exact .slice rfl

end ReadResponse

namespace WriteRequest

theorem safe_readWords (b : WriteRequest) (count : UInt8) :
    Safe 0 0 (b.readWords count) r := by
  refine .bind .u16 fun _ _ => .bind .u32 fun _ _ => .bind (.skip (by decide)) fun _ _ => ?_
  refine .bind (.u16_near (by decide)) fun _ _ => ?_
  refine .bind .u16 fun _ _ => .bind .u16 fun _ _ => .bind .u16 fun _ _ => .bind .u16 fun _ _ => ?_
  refine .ite (.bind .u32 fun _ _ => ?_) (.bind .pure fun _ _ => ?_)
  all_goals exact .pure

theorem safe_readBytes (b : WriteRequest) (count : Nat) : Safe 0 0 (b.readBytes count) r :=
  .slice rfl

end WriteRequest

namespace WriteResponse

theorem safe_readWords (b : WriteResponse) (count : UInt8) :
    Safe 0 2 (b.readWords count) r :=
  .bind .u16 fun _ _ => .bind .u16 fun _ _ => .bind .u16 fun _ _ =>
    .bind (.skip (by decide)) fun _ _ => .pure

end WriteResponse

namespace CloseRequest

theorem safe_readWords (b : CloseRequest) (count : UInt8) :
    Safe 0 0 (b.readWords count) r := .bind .u16 fun _ _ => .bind .u32 fun _ _ => .pure

end CloseRequest

namespace CheckDirectoryRequest

theorem safe_readBytes (b : CheckDirectoryRequest) {count : Nat} (few : count ≤ reach) :
    Safe 0 2 (b.readBytes count) r := by
  refine .bind (.ahead (fits_of_le_reach few)) fun _ _ => .bind .u8 fun _ _ => ?_
  exact .ite (.refused rfl) (.bind (.string (by decide)) fun _ _ => .pure)

end CheckDirectoryRequest

namespace Transaction

/-- Setup words are read from the message or from just behind it. -/
theorem safe_setup (count : Nat) (few : near ≤ 1) :
    Safe near 1 (Decoder.times count Decoder.u16) r := by
  have words : Safe 1 1 (Decoder.times count Decoder.u16) r :=
    .times (fun _ => .mono (.u16_near (by decide)) (Nat.zero_le 1)) count
  exact fun memory here => words memory (by omega)

namespace RequestFrame

theorem safe_readPrimaryWords (f : RequestFrame) : Safe 0 1 f.readPrimaryWords r := by
  refine .ite ?_ ?_
  · refine .bind .u8 fun _ _ => .bind (.skip (by decide)) fun _ _ => ?_
    refine .bind (.u32_near (by decide)) fun _ _ => ?_
    refine .bind .u32 fun _ _ => .bind .u32 fun _ _ => .bind .u32 fun _ _ => ?_
    refine .bind .u32 fun _ _ => .bind .u32 fun _ _ => .bind .u32 fun _ _ => ?_
    refine .bind .u32 fun _ _ => .bind .u8 fun _ _ => .bind .u16 fun _ _ => ?_
    exact .bind (safe_setup _ (by decide)) fun _ _ => .pure
  · refine .bind .u16 fun _ _ => .bind .u16 fun _ _ => .bind .u16 fun _ _ => ?_
    refine .bind .u16 fun _ _ => .bind .u8 fun _ _ => .bind (.skip (by decide)) fun _ _ => ?_
    refine .bind (.u16_near (by decide)) fun _ _ => .bind .u32 fun _ _ => ?_
    refine .bind (.skip (by decide)) fun _ _ => .bind (.u16_near (by decide)) fun _ _ => ?_
    refine .bind .u16 fun _ _ => .bind .u16 fun _ _ => ?_
    refine .bind .u16 fun _ _ => .bind .u8 fun _ _ => .bind (.skip (by decide)) fun _ _ => ?_
    exact .bind (safe_setup _ (by decide)) fun _ _ => .pure

theorem safe_count (kind : Kind) (fits : near + 4 ≤ memoryLimit) : Safe near 0 (count kind) r :=
  .ite (.u32_near fits) (.map (.u16_near (Nat.le_trans (by omega) fits)))

theorem safe_readSecondaryWords (f : RequestFrame) : Safe 0 0 f.readSecondaryWords r := by
  refine .ite (.bind (.skip (by decide)) fun _ _ => ?_) ?_
  all_goals
    refine .bind (safe_count _ (by decide)) fun _ _ => ?_
    refine .bind (safe_count _ (by decide)) fun _ _ => ?_
    refine .bind (safe_count _ (by decide)) fun _ _ => ?_
    refine .bind (safe_count _ (by decide)) fun _ _ => ?_
    refine .bind (safe_count _ (by decide)) fun _ _ => ?_
    refine .bind (safe_count _ (by decide)) fun _ _ => ?_
    refine .bind (safe_count _ (by decide)) fun _ _ => ?_
    refine .bind (safe_count _ (by decide)) fun _ _ => ?_
    exact .ite (.bind .u16 fun _ _ => .pure) (.bind .pure fun _ _ => .pure)

theorem safe_readWords (f : RequestFrame) (count : UInt8) : Safe 0 1 (f.readWords count) r :=
  .ite (f.safe_readSecondaryWords.mono (by decide)) f.safe_readPrimaryWords

theorem safe_readBytes (f : RequestFrame) {count : Nat} (few : count ≤ reach) :
    Safe 0 2 (f.readBytes count) r := by
  have payloads {near : Nat} {r : Reader} (name : Option String) : Safe near near (fun r => do
      let parameters ← payloadAt r f.received.parameters f.parameters.length
      let data ← payloadAt r f.received.data f.data.length
      .ok ({ f with name, parameters := .held parameters, data := .held data }, r)) r :=
    .look (faultless_payloadAt r _ _) fun _ => .look (faultless_payloadAt r _ _) fun _ => .pure
  refine .ite ?_ (.bind .pure fun _ _ => (payloads _).mono (by decide))
  refine .bind (.ahead (fits_of_le_reach few)) fun _ _ => ?_
  exact .bind (.map (.string (by decide))) fun _ _ => payloads _

end RequestFrame

namespace ResponseFrame

theorem safe_readCounts (kind : Kind) : Safe 0 1 (readCounts kind) r := by
  refine .ite ?_ ?_
  · refine .bind (.skip (by decide)) fun _ _ => .bind (.u32_near (by decide)) fun _ _ => ?_
    refine .bind .u32 fun _ _ => ?_
    refine .bind .u32 fun _ _ => .bind .u32 fun _ _ => .bind .u32 fun _ _ => ?_
    refine .bind .u32 fun _ _ => .bind .u32 fun _ _ => .bind .u32 fun _ _ => ?_
    exact .bind .u8 fun _ _ => Safe.pure.mono (by decide)
  · refine .bind .u16 fun _ _ => .bind .u16 fun _ _ => .bind (.skip (by decide)) fun _ _ => ?_
    refine .bind (.u16_near (by decide)) fun _ _ => .bind .u16 fun _ _ => .bind .u16 fun _ _ => ?_
    refine .bind .u16 fun _ _ => .bind .u16 fun _ _ => .bind .u16 fun _ _ => ?_
    exact .bind .u8 fun _ _ => .bind (.skip (by decide)) fun _ _ => .pure

theorem safe_readWords (f : ResponseFrame) (count : UInt8) : Safe 0 1 (f.readWords count) r :=
  .bind (safe_readCounts f.kind) fun _ _ =>
    .bind (safe_setup _ (Nat.le_refl 1)) fun _ _ => .pure

theorem safe_readBytes (f : ResponseFrame) (count : Nat) : Safe 0 0 (f.readBytes count) r :=
  .look (faultless_payloadAt r _ _) fun _ => .look (faultless_payloadAt r _ _) fun _ => .pure

end ResponseFrame

theorem Reassembly.safe_readWords (x : Reassembly) : Safe 0 1 (Decoder.filled x.readWords) r :=
  x.filled_readWords ▸ .map (ResponseFrame.safe_readWords _ 0)

end Transaction

namespace Body

/-- The bytes of a template, as many of which are read. -/
def held : Body → List Bytes
  | sessionSetupRequest b => b.held
  | sessionSetupResponse b => b.held
  | treeConnectRequest b => b.held
  | _ => []

def collecting? : Body → Option Reassembly
  | transactionResponse r => some r
  | _ => none

/-- A template that up to so many frames have been read into: what it holds lies in memory, and a
response that it collects came about by collecting. -/
structure Ready (n : Nat) (b : Body) : Prop where
  memory : InMemory b.held
  reached : ∀ r ∈ b.collecting?, r.Reached n

variable {n : Nat}

theorem Ready.later {b : Body} (ready : b.Ready n) : b.Ready (n + 1) :=
  ⟨ready.memory, fun r collected => .later (ready.reached r collected)⟩

theorem ready_of_plain {b : Body} (nothing : b.held = []) (none : b.collecting? = none) :
    b.Ready n := by
  constructor
  · rw [nothing]
    exact .nil
  · rw [none]
    exact nofun

theorem safe_fill {far further : Nat} (b : Body) {wrap : α → Body} {d : Decoder α}
    (h : Safe near far d r) (le : far ≤ further) :
    Safe near further (Decoder.filled (b.fill wrap d)) r :=
  filled_fill b wrap d ▸ .map (h.mono le)

/-- A template stays ready when a step fails, so only its values count. -/
theorem ready_fill {b : Body} (ready : b.Ready n) {wrap : α → Body} {d : Decoder α}
    (h : Gives (fun a => (wrap a).Ready n) d) (r : Reader) : (b.fill wrap d r).1.Ready n := by
  unfold fill
  cases taken : d r with
  | error e => exact ready
  | ok got => exact h r got.1 got.2 taken

theorem plain_fill {b : Body} (ready : b.Ready n) {wrap : α → Body} {d : Decoder α}
    (nothing : ∀ a, (wrap a).held = []) (none : ∀ a, (wrap a).collecting? = none) (r : Reader) :
    (b.fill wrap d r).1.Ready n :=
  ready_fill ready (.of_all (fun a => ready_of_plain (nothing a) (none a)) d) r

/-- A template that holds bytes is ready as long as they lie in memory. -/
theorem holding_fill {b : Body} (ready : b.Ready n) {wrap : α → Body} {d : Decoder α}
    (h : Gives (fun a => InMemory (wrap a).held) d) (none : ∀ a, (wrap a).collecting? = none)
    (r : Reader) : (b.fill wrap d r).1.Ready n :=
  ready_fill ready (fun r a r' read => ⟨h r a r' read, by rw [none]; exact nofun⟩) r

theorem safe_readWords (b : Body) (count : UInt8) :
    Safe 0 8 (Decoder.filled (b.readWords count)) r := by
  cases b with
  | negotiateRequest b => exact safe_fill (negotiateRequest b) .pure (Nat.zero_le 8)
  | checkDirectoryRequest b => exact safe_fill (checkDirectoryRequest b) .pure (Nat.zero_le 8)
  | negotiateResponse b => exact safe_fill _ (b.safe_readWords count) (by decide)
  | sessionSetupRequest b => exact safe_fill _ (b.safe_readWords count) (by decide)
  | sessionSetupResponse b => exact safe_fill _ (b.safe_readWords count) (by decide)
  | treeConnectRequest b => exact safe_fill _ (b.safe_readWords count) (by decide)
  | treeConnectResponse b => exact safe_fill _ (b.safe_readWords count) (by decide)
  | createRequest b => exact safe_fill _ (b.safe_readWords count) (by decide)
  | createResponse b => exact safe_fill _ (b.safe_readWords count) (by decide)
  | readRequest b => exact safe_fill _ (b.safe_readWords count) (by decide)
  | readResponse b => exact safe_fill _ (b.safe_readWords count) (by decide)
  | writeRequest b => exact safe_fill _ (b.safe_readWords count) (by decide)
  | writeResponse b => exact safe_fill _ (b.safe_readWords count) (by decide)
  | closeRequest b => exact safe_fill _ (b.safe_readWords count) (by decide)
  | transactionRequest f => exact safe_fill _ (f.safe_readWords count) (by decide)
  | transactionResponseFrame f => exact safe_fill _ (f.safe_readWords count) (by decide)
  | transactionResponse x =>
    have wrapped : Decoder.filled ((transactionResponse x).readWords count) =
        transactionResponse <$> Decoder.filled x.readWords := Decoder.filled_map ..
    exact wrapped ▸ .mono (.map x.safe_readWords) (by decide)
  | logoff | empty _ => exact Safe.pure.mono (by decide)

theorem ready_ite {p : Prop} [Decidable p] {first second : Body × β} (yes : first.1.Ready n)
    (no : second.1.Ready n) : (if p then first else second).1.Ready n := by
  split <;> assumption

theorem ready_readWords {b : Body} (ready : b.Ready n) (count : UInt8) (r : Reader) :
    (b.readWords count r).1.Ready n := by
  cases b with
  | sessionSetupRequest b =>
    exact holding_fill ready (b.inMemory_readWords ready.memory count) (fun _ => rfl) r
  | sessionSetupResponse b =>
    exact holding_fill ready (b.inMemory_readWords ready.memory count) (fun _ => rfl) r
  | treeConnectRequest b =>
    exact holding_fill ready (b.inMemory_readWords count) (fun _ => rfl) r
  | transactionResponse x =>
    exact ⟨nofun, fun y same => Option.some.inj same ▸ .readWords (ready.reached x rfl) r⟩
  | logoff | empty => exact ready
  | negotiateRequest b => exact plain_fill ready (fun _ => rfl) (fun _ => rfl) r
  | checkDirectoryRequest b => exact plain_fill ready (fun _ => rfl) (fun _ => rfl) r
  | _ => exact plain_fill ready (fun _ => rfl) (fun _ => rfl) r

theorem ready_readBytes {b : Body} (ready : b.Ready n) (count : Nat) (r : Reader) :
    (b.readBytes count r).1.Ready (n + 1) := by
  cases b with
  | sessionSetupRequest b =>
    exact holding_fill ready.later (b.inMemory_readBytes ready.memory count) (fun _ => rfl) r
  | sessionSetupResponse b =>
    exact holding_fill ready.later (b.inMemory_readBytes ready.memory count) (fun _ => rfl) r
  | treeConnectRequest b =>
    exact holding_fill ready.later (b.inMemory_readBytes ready.memory count) (fun _ => rfl) r
  | transactionResponse x =>
    exact ⟨nofun, fun y same => Option.some.inj same ▸ .readBytes (ready.reached x rfl) r⟩
  | logoff | empty => exact ready.later
  | _ => exact plain_fill ready.later (fun _ => rfl) (fun _ => rfl) r

theorem safe_readBytes {b : Body} (ready : b.Ready n) {count : Nat} (few : count ≤ reach) :
    Safe 0 8 (Decoder.filled (b.readBytes count)) r := by
  cases b with
  | negotiateRequest b => exact safe_fill _ (b.safe_readBytes few) (by decide)
  | negotiateResponse b => exact safe_fill _ (b.safe_readBytes few) (by decide)
  | sessionSetupRequest b => exact safe_fill _ (b.safe_readBytes few ready.memory) (by decide)
  | sessionSetupResponse b => exact safe_fill _ (b.safe_readBytes few ready.memory) (by decide)
  | treeConnectRequest b => exact safe_fill _ (b.safe_readBytes few ready.memory) (by decide)
  | treeConnectResponse b => exact safe_fill _ (b.safe_readBytes few) (by decide)
  | createRequest b => exact safe_fill _ (b.safe_readBytes few) (by decide)
  | createResponse b => exact safe_fill (createResponse b) .pure (Nat.zero_le 8)
  | readRequest b => exact safe_fill (readRequest b) .pure (Nat.zero_le 8)
  | writeResponse b => exact safe_fill (writeResponse b) .pure (Nat.zero_le 8)
  | closeRequest b => exact safe_fill (closeRequest b) .pure (Nat.zero_le 8)
  | readResponse b => exact safe_fill _ (b.safe_readBytes count) (by decide)
  | writeRequest b => exact safe_fill _ (b.safe_readBytes count) (by decide)
  | checkDirectoryRequest b => exact safe_fill _ (b.safe_readBytes few) (by decide)
  | transactionRequest f => exact safe_fill _ (f.safe_readBytes few) (by decide)
  | transactionResponseFrame f => exact safe_fill _ (f.safe_readBytes count) (by decide)
  | transactionResponse x =>
    have wrapped : Decoder.filled ((transactionResponse x).readBytes count) =
        transactionResponse <$> Decoder.filled x.readBytes := Decoder.filled_map ..
    have intact := Reassembly.intact_of_reached (ready.reached x rfl)
    exact wrapped ▸ .mono (.map (Reassembly.safe_readBytes intact)) (by decide)
  | logoff | empty _ => exact Safe.pure.mono (by decide)

end Body

namespace Chain

theorem safe_readBlock : Safe 0 0 readBlock r :=
  .bind .u8 fun _ _ => .bind (.skip (by decide)) fun _ _ =>
    .bind (.u16_near (by decide)) fun _ _ => .pure

theorem safe_readLinkHead (b : Body) (fits : near + 1 ≤ memoryLimit) :
    Safe near 0 (readLinkHead b) r :=
  .bind (.u8_near fits) fun _ _ => .ite (.bind safe_readBlock fun _ _ => .pure)
    (.bind .pure fun _ _ => .pure)

/-- A successor starts where a 16-bit number leads. -/
theorem offset_le_reach (b : Body) :
    Gives (fun head => ∀ successor ∈ head.2, successor.offset ≤ reach) (readLinkHead b) := by
  have block : Gives (fun found : Option Successor => ∀ successor ∈ found,
      successor.offset ≤ reach) readBlock := by
    refine .bind fun code => .bind fun _ => .bind fun offset => .pure fun successor named => ?_
    split at named
    · cases named
    · cases named
      exact Nat.le_of_lt_succ offset.toNat_lt
  refine .bind fun _ => .ite (.bindOf block fun found holds => .pure holds) (.pass (.pure nofun))

/-- Behind the words the cursor stands where the word count says. -/
theorem safe_readLinkWords (b : Body) {start : Nat} (rawCount : UInt8)
    (here : start ≤ r.length + reach) :
    Safe 0 (reach + 511) (Decoder.filled (readLinkWords b start rawCount)) r := by
  have few (count : UInt8) : reach + (1 + count.toNat * 2) ≤ reach + 511 := by
    have := count.toNat_lt
    omega
  exact .seeking (.filling (b.safe_readWords _) (by decide)) here
    (Nat.le_trans (few _) (by decide)) (few _)

theorem ready_readLinkWords {n : Nat} {b : Body} (ready : b.Ready n) (start : Nat)
    (rawCount : UInt8) (r : Reader) : (readLinkWords b start rawCount r).1.Ready n := by
  exact Body.ready_ite (Body.ready_readWords ready _ r) ready

theorem ready_readLinkBytes {n : Nat} {b : Body} (ready : b.Ready n) (rawCount : UInt8)
    (r : Reader) : (readLinkBytes b rawCount r).1.Ready (n + 1) := by
  unfold readLinkBytes
  cases Decoder.u16 r with
  | error e => exact ready.later
  | ok read => exact Body.ready_ite (Body.ready_readBytes ready _ _) ready.later

theorem safe_readLinkBytes {n : Nat} {b : Body} (ready : b.Ready n) (rawCount : UInt8)
    (fits : near + 2 ≤ memoryLimit) :
    Safe near reach (Decoder.filled (readLinkBytes b rawCount)) r := by
  rw [filled_readLinkBytes]
  refine .bind (.u16_near fits) fun byteCount r' => ?_
  refine .bindAt .position fun start _ read _ here => ?_
  have few : byteCount.toNat ≤ reach := Nat.le_of_lt_succ byteCount.toNat_lt
  cases read
  have filled : Safe 0 8 (Decoder.filled (fillBytes b rawCount byteCount.toNat)) r' :=
    .filling (Body.safe_readBytes ready few) (by decide)
  exact .seeking filled here (fits_of_le_reach few) (by omega)

/-- From any place that a 16-bit number leads to, a link is read to another such place. -/
theorem safe_readLink {n : Nat} {b : Body} (ready : b.Ready n) :
    Safe reach reach (linkDecoder b) r := by
  refine .bindAt .position fun start r' read _ here => ?_
  cases read
  refine .bindAt (safe_readLinkHead b (by decide)) fun head r' _ same _ => ?_
  refine .bindAt (safe_readLinkWords b _ (same.symm ▸ here)) fun c r' words _ _ => ?_
  have same : _ = c := congrArg Prod.fst (Decoder.filled_eq_ok.mp words)
  have ready : c.Ready n := same ▸ ready_readLinkWords ready _ _ _
  exact .bind (safe_readLinkBytes ready _ (by decide)) fun _ _ => .pure

/-- Whatever comes of a link, its template can be used for another frame. -/
theorem ready_readLink {n : Nat} {b : Body} (ready : b.Ready n) (r : Reader) :
    (readLink b r).1.Ready (n + 1) := by
  unfold readLink
  cases readLinkHead b r with
  | error e => exact ready.later
  | ok head =>
    have worded := ready_readLinkWords ready r.position head.1.1 head.2
    dsimp only
    rcases words : readLinkWords b r.position head.1.1 head.2 with ⟨c, e | behind⟩ <;>
      rw [words] at worded
    · exact worded.later
    · exact ready_readLinkBytes worded head.1.1 behind

theorem offset_readLink (b : Body) :
    Gives (fun link => ∀ successor ∈ link.2, successor.offset ≤ reach) (linkDecoder b) :=
  .bind fun _ => .bindOf (offset_le_reach b) fun _ near =>
    .bind fun _ => .bind fun _ => .pure near

end Chain

end Smb1
