import Smb1.Message.Basic
import Smb1.Proofs.Wire.Extends

/-! Bodies and links are read from a message as from every message that begins with it, as long as
the data bytes they were told of end in it. -/
namespace Smb1

open Wire Transaction

variable {limit : Nat} {r : Reader}

namespace NegotiateRequest

theorem extends_dialectsUpTo (count : Nat) : Extends limit (dialectsUpTo limit count) r := by
  induction count generalizing r with
  | zero => exact .pure
  | succ count ih =>
    refine .bind .position fun _ _ => .ite (.bind .u8 fun _ _ => .ite .refused ?_) .pure
    exact .bind .oemString fun _ _ => .bind ih fun _ _ => .pure

theorem extends_readBytes (b : NegotiateRequest) (count : Nat) :
    Extends (r.position + count) (b.readBytes count) r :=
  .upTo fun _ => .bind (extends_dialectsUpTo count) fun _ _ => .pure

end NegotiateRequest

namespace NegotiateResponse

theorem extends_readWords (b : NegotiateResponse) (count : UInt8) :
    Extends limit (b.readWords count) r := by
  refine .bind .u16 fun _ _ => .bind .u8 fun _ _ => .bind .u16 fun _ _ => .bind .u16 fun _ _ => ?_
  refine .bind .u32 fun _ _ => .bind .u32 fun _ _ => .bind .u32 fun _ _ => .bind .u32 fun _ _ => ?_
  exact .bind .u64 fun _ _ => .bind .u16 fun _ _ => .bind .u8 fun _ _ => .pure

theorem extends_readBytes (b : NegotiateResponse) (count : Nat) :
    Extends (r.position + count) (b.readBytes count) r := by
  refine .upTo fun _ => .ite ?_ ?_
  · exact .bind .octets fun _ _ => .bind .take fun _ _ => .pure
  · refine .bind .take fun _ _ => .bind .stringUnaligned fun _ _ => .bind .position fun _ _ => ?_
    exact .ite (.bind .stringUnaligned fun _ _ => .pure) .pure

end NegotiateResponse

namespace SessionSetupRequest

theorem extends_readWords (b : SessionSetupRequest) (count : UInt8) :
    Extends limit (b.readWords count) r := by
  refine .bind .u16 fun _ _ => .bind .u16 fun _ _ => .bind .u16 fun _ _ => .bind .u32 fun _ _ => ?_
  refine .ite (.bind .u16 fun _ _ => .bind .pure fun _ _ => ?_)
    (.bind .u16 fun _ _ => .bind .u16 fun _ _ => .bind .pure fun _ _ => ?_)
  all_goals exact .bind .skip fun _ _ => .bind .u32 fun _ _ => .pure

theorem extends_readBytes (b : SessionSetupRequest) (count : Nat) :
    Extends (r.position + count) (b.readBytes count) r := by
  have names {limit : Nat} {r : Reader} (b : SessionSetupRequest) : Extends limit (do
      let nativeOs ← Decoder.string limit
      let nativeLanman ← Decoder.string limit
      pure { b with nativeOs, nativeLanman }) r :=
    .bind .string fun _ _ => .bind .string fun _ _ => .pure
  refine .upTo fun _ => ?_
  cases b.securityBlob with
  | some blob => exact .bind .take fun _ _ => .bind .pure fun _ _ => names _
  | none =>
    refine .bind .take fun _ _ => .bind .take fun _ _ => .bind .string fun _ _ => ?_
    exact .bind .string fun _ _ => .bind .pure fun _ _ => names _

end SessionSetupRequest

namespace SessionSetupResponse

theorem extends_readWords (b : SessionSetupResponse) (count : UInt8) :
    Extends limit (b.readWords count) r :=
  .bind .u16 fun _ _ => .ite (.bind .u16 fun _ _ => .pure) .pure

theorem extends_trailing (template : String) : Extends limit (trailing limit template) r :=
  .bind .position fun _ _ => .ite .stringOrEmpty .pure

theorem extends_readBytes (b : SessionSetupResponse) (count : Nat) :
    Extends (r.position + count) (b.readBytes count) r := by
  refine .upTo fun _ => ?_
  cases b.securityBlob with
  | some blob =>
    refine .bind (.map .take) fun _ _ => .bind (extends_trailing _) fun _ _ => ?_
    exact .bind (extends_trailing _) fun _ _ => .bind (extends_trailing _) fun _ _ => .pure
  | none =>
    refine .bind .pure fun _ _ => .bind (extends_trailing _) fun _ _ => ?_
    exact .bind (extends_trailing _) fun _ _ => .bind (extends_trailing _) fun _ _ => .pure

end SessionSetupResponse

namespace TreeConnectRequest

theorem extends_readWords (b : TreeConnectRequest) (count : UInt8) :
    Extends limit (b.readWords count) r := .bind .u16 fun _ _ => .bind .u16 fun _ _ => .pure

theorem extends_readBytes (b : TreeConnectRequest) (count : Nat) :
    Extends (r.position + count) (b.readBytes count) r :=
  .upTo fun _ => .bind .take fun _ _ => .bind .string fun _ _ => .bind .oemString fun _ _ => .pure

end TreeConnectRequest

namespace TreeConnectResponse

theorem extends_readWords (b : TreeConnectResponse) (count : UInt8) :
    Extends limit (b.readWords count) r :=
  .bind .u16 fun _ _ => .ite (.bind .u32 fun _ _ => .bind .u32 fun _ _ => .pure) .pure

theorem extends_readBytes (b : TreeConnectResponse) (count : Nat) :
    Extends (r.position + count) (b.readBytes count) r := by
  refine .upTo fun _ => .bind .oemString fun _ _ => .bind .position fun _ _ => ?_
  exact .ite (.bind .stringOrEmpty fun _ _ => .pure) .pure

end TreeConnectResponse

namespace CreateRequest

theorem extends_readWords (b : CreateRequest) (count : UInt8) :
    Extends limit (b.readWords count) r := by
  refine .bind .skip fun _ _ => .bind .u16 fun _ _ => .bind .u32 fun _ _ => .bind .u32 fun _ _ => ?_
  refine .bind .u32 fun _ _ => .bind .u64 fun _ _ => .bind .u32 fun _ _ => .bind .u32 fun _ _ => ?_
  refine .bind .u32 fun _ _ => .bind .u32 fun _ _ => .bind .u32 fun _ _ => ?_
  exact .bind .u8 fun _ _ => .pure

theorem extends_readBytes (b : CreateRequest) (count : Nat) :
    Extends (r.position + count) (b.readBytes count) r :=
  .upTo fun _ => .bind .string fun _ _ => .pure

end CreateRequest

namespace CreateResponse

theorem extends_readWords (b : CreateResponse) (count : UInt8) :
    Extends limit (b.readWords count) r := by
  refine .bind .u8 fun _ _ => .bind .u16 fun _ _ => .bind .u32 fun _ _ => .bind .u64 fun _ _ => ?_
  refine .bind .u64 fun _ _ => .bind .u64 fun _ _ => .bind .u64 fun _ _ => .bind .u32 fun _ _ => ?_
  refine .bind .u64 fun _ _ => .bind .u64 fun _ _ => .bind .u16 fun _ _ => .bind .u16 fun _ _ => ?_
  refine .bind .u8 fun _ _ => .ite ?_ .pure
  refine .bind .octets fun _ _ => .bind .u64 fun _ _ => .bind .u32 fun _ _ => ?_
  exact .bind .u32 fun _ _ => .pure

end CreateResponse

namespace ReadRequest

theorem extends_readWords (b : ReadRequest) (count : UInt8) :
    Extends limit (b.readWords count) r := by
  refine .bind .u16 fun _ _ => .bind .u32 fun _ _ => .bind .u16 fun _ _ => .bind .u16 fun _ _ => ?_
  refine .bind .u32 fun _ _ => .bind .u16 fun _ _ => .ite (.bind .u32 fun _ _ => ?_)
    (.bind .pure fun _ _ => ?_)
  all_goals exact .pure

end ReadRequest

namespace ReadResponse

theorem extends_readWords (b : ReadResponse) (count : UInt8) :
    Extends limit (b.readWords count) r := by
  refine .bind .u16 fun _ _ => .bind .u16 fun _ _ => .bind .skip fun _ _ => .bind .u16 fun _ _ => ?_
  exact .bind .u16 fun _ _ => .bind .u16 fun _ _ => .bind .skip fun _ _ => .pure

theorem extends_readBytes (b : ReadResponse) (count : Nat) :
    Extends limit (b.readBytes count) r := by
  obtain ⟨_, _, _, _, _, detached⟩ := b
  cases detached with
  | true => exact .pure
  | false => exact .slice

end ReadResponse

namespace WriteRequest

theorem extends_readWords (b : WriteRequest) (count : UInt8) :
    Extends limit (b.readWords count) r := by
  refine .bind .u16 fun _ _ => .bind .u32 fun _ _ => .bind .skip fun _ _ => .bind .u16 fun _ _ => ?_
  refine .bind .u16 fun _ _ => .bind .u16 fun _ _ => .bind .u16 fun _ _ => .bind .u16 fun _ _ => ?_
  refine .ite (.bind .u32 fun _ _ => ?_) (.bind .pure fun _ _ => ?_)
  all_goals exact .pure

theorem extends_readBytes (b : WriteRequest) (count : Nat) :
    Extends limit (b.readBytes count) r := .slice

end WriteRequest

namespace WriteResponse

theorem extends_readWords (b : WriteResponse) (count : UInt8) :
    Extends limit (b.readWords count) r :=
  .bind .u16 fun _ _ => .bind .u16 fun _ _ => .bind .u16 fun _ _ => .bind .skip fun _ _ => .pure

end WriteResponse

namespace CloseRequest

theorem extends_readWords (b : CloseRequest) (count : UInt8) :
    Extends limit (b.readWords count) r := .bind .u16 fun _ _ => .bind .u32 fun _ _ => .pure

end CloseRequest

namespace CheckDirectoryRequest

theorem extends_readBytes (b : CheckDirectoryRequest) (count : Nat) :
    Extends (r.position + count) (b.readBytes count) r :=
  .upTo fun _ => .bind .u8 fun _ _ => .ite .refused (.bind .string fun _ _ => .pure)

end CheckDirectoryRequest

namespace Transaction

theorem payloadAt_extended {r : Reader} {offset count : Nat} {bytes : Bytes}
    (picked : payloadAt r offset count = .ok bytes) (tail : Bytes) :
    payloadAt (r.extended tail) offset count = .ok bytes := by
  unfold payloadAt at picked ⊢
  split at picked
  next none => rw [if_pos none, picked]
  next some =>
    rw [if_neg some]
    cases slice : r.slice offset count with
    | error e =>
      rw [slice] at picked
      cases picked
    | ok found =>
      rw [slice] at picked
      rw [Reader.slice_extended slice, picked]

namespace RequestFrame

theorem extends_readPrimaryWords (f : RequestFrame) : Extends limit f.readPrimaryWords r := by
  refine .ite ?_ ?_
  · refine .bind .u8 fun _ _ => .bind .skip fun _ _ => .bind .u32 fun _ _ => ?_
    refine .bind .u32 fun _ _ => .bind .u32 fun _ _ => .bind .u32 fun _ _ => ?_
    refine .bind .u32 fun _ _ => .bind .u32 fun _ _ => .bind .u32 fun _ _ => ?_
    refine .bind .u32 fun _ _ => .bind .u8 fun _ _ => .bind .u16 fun _ _ => ?_
    exact .bind (.times (fun _ => .u16) _) fun _ _ => .pure
  · refine .bind .u16 fun _ _ => .bind .u16 fun _ _ => .bind .u16 fun _ _ => ?_
    refine .bind .u16 fun _ _ => .bind .u8 fun _ _ => .bind .skip fun _ _ => ?_
    refine .bind .u16 fun _ _ => .bind .u32 fun _ _ => .bind .skip fun _ _ => ?_
    refine .bind .u16 fun _ _ => .bind .u16 fun _ _ => .bind .u16 fun _ _ => ?_
    refine .bind .u16 fun _ _ => .bind .u8 fun _ _ => .bind .skip fun _ _ => ?_
    exact .bind (.times (fun _ => .u16) _) fun _ _ => .pure

theorem extends_count (kind : Kind) : Extends limit (count kind) r := .ite .u32 (.map .u16)

theorem extends_readSecondaryWords (f : RequestFrame) :
    Extends limit f.readSecondaryWords r := by
  refine .ite (.bind .skip fun _ _ => ?_) ?_
  all_goals
    refine .bind (extends_count _) fun _ _ => .bind (extends_count _) fun _ _ => ?_
    refine .bind (extends_count _) fun _ _ => .bind (extends_count _) fun _ _ => ?_
    refine .bind (extends_count _) fun _ _ => .bind (extends_count _) fun _ _ => ?_
    refine .bind (extends_count _) fun _ _ => .bind (extends_count _) fun _ _ => ?_
    exact .ite (.bind .u16 fun _ _ => .pure) (.bind .pure fun _ _ => .pure)

theorem extends_readWords (f : RequestFrame) (count : UInt8) :
    Extends limit (f.readWords count) r :=
  .ite f.extends_readSecondaryWords f.extends_readPrimaryWords

theorem extends_readBytes (f : RequestFrame) (count : Nat) :
    Extends (r.position + count) (f.readBytes count) r := by
  have payloads {limit : Nat} {r : Reader} (name : Option String) : Extends limit (fun r => do
      let parameters ← payloadAt r f.received.parameters f.parameters.length
      let data ← payloadAt r f.received.data f.data.length
      .ok ({ f with name, parameters := .held parameters, data := .held data }, r)) r :=
    .look payloadAt_extended fun _ => .look payloadAt_extended fun _ => .pure
  exact .ite (.upTo fun _ => .bind (.map .string) fun _ _ => payloads _)
    (.bind .pure fun _ _ => payloads _)

end RequestFrame

namespace ResponseFrame

theorem extends_readCounts (kind : Kind) : Extends limit (readCounts kind) r := by
  refine .ite ?_ ?_
  · refine .bind .skip fun _ _ => .bind .u32 fun _ _ => .bind .u32 fun _ _ => ?_
    refine .bind .u32 fun _ _ => .bind .u32 fun _ _ => .bind .u32 fun _ _ => ?_
    refine .bind .u32 fun _ _ => .bind .u32 fun _ _ => .bind .u32 fun _ _ => ?_
    exact .bind .u8 fun _ _ => .pure
  · refine .bind .u16 fun _ _ => .bind .u16 fun _ _ => .bind .skip fun _ _ => ?_
    refine .bind .u16 fun _ _ => .bind .u16 fun _ _ => .bind .u16 fun _ _ => ?_
    refine .bind .u16 fun _ _ => .bind .u16 fun _ _ => .bind .u16 fun _ _ => ?_
    exact .bind .u8 fun _ _ => .bind .skip fun _ _ => .pure

theorem extends_readWords (f : ResponseFrame) (count : UInt8) :
    Extends limit (f.readWords count) r :=
  .bind (extends_readCounts f.kind) fun _ _ => .bind (.times (fun _ => .u16) _) fun _ _ => .pure

theorem extends_readBytes (f : ResponseFrame) (count : Nat) :
    Extends limit (f.readBytes count) r :=
  .look payloadAt_extended fun _ => .look payloadAt_extended fun _ => .pure

end ResponseFrame

namespace Reassembly

theorem filled_readWords (x : Reassembly) : Decoder.filled x.readWords =
    (fun f => { x with current := f }) <$> (ResponseFrame.blank x.kind).readWords 0 := by
  funext r
  have family : (ResponseFrame.blank x.kind).kind = x.kind := rfl
  rw [Decoder.map_apply, ResponseFrame.readWords, Decoder.bind_apply, family]
  unfold Decoder.filled readWords
  cases ResponseFrame.readCounts x.kind r with
  | error e => rfl
  | ok got =>
    obtain ⟨counts, behind⟩ := got
    dsimp only
    rw [Decoder.bind_apply]
    cases Decoder.times counts.setupCount.toNat Decoder.u16 behind <;> rfl

theorem extends_readWords (x : Reassembly) : Extends limit (Decoder.filled x.readWords) r :=
  x.filled_readWords ▸ .map (ResponseFrame.extends_readWords _ 0)

/-- Folding a frame in looks at the message no more. -/
theorem extends_readBytes (x : Reassembly) : Extends limit (Decoder.filled x.readBytes) r := by
  have folded : Decoder.filled x.readBytes = x.current.readBytes 0 >>= fun f =>
      Decoder.filled fun r => (({ x with current := f }.accept f r.unicode).1,
        ({ x with current := f }.accept f r.unicode).2.map fun _ => r) := by
    funext r
    rw [Decoder.bind_apply]
    unfold Decoder.filled readBytes ResponseFrame.readBytes
    cases parameters :
        payloadAt r x.current.received.parameters x.current.parameters.length with
    | error e => simp only [parameters, Bind.bind, Except.bind]
    | ok bytes =>
      cases data : payloadAt r x.current.received.data x.current.data.length <;>
        simp only [parameters, data, Bind.bind, Except.bind]
  rw [folded]
  exact .bind (x.current.extends_readBytes 0) fun f _ =>
    .inPlace (({ x with current := f } : Reassembly).accept f)

end Reassembly

end Transaction

namespace Body

theorem filled_fill (b : Body) (wrap : α → Body) (d : Decoder α) :
    Decoder.filled (b.fill wrap d) = wrap <$> d := by
  funext r
  rw [Decoder.map_apply]
  unfold Decoder.filled fill
  cases d r <;> rfl

theorem extends_fill (b : Body) {wrap : α → Body} {d : Decoder α} (h : Extends limit d r) :
    Extends limit (Decoder.filled (b.fill wrap d)) r := filled_fill b wrap d ▸ .map h

theorem extends_readWords (b : Body) (count : UInt8) :
    Extends limit (Decoder.filled (b.readWords count)) r := by
  cases b with
  | negotiateRequest b => exact extends_fill (negotiateRequest b) .pure
  | checkDirectoryRequest b => exact extends_fill (checkDirectoryRequest b) .pure
  | negotiateResponse b => exact extends_fill _ (b.extends_readWords count)
  | sessionSetupRequest b => exact extends_fill _ (b.extends_readWords count)
  | sessionSetupResponse b => exact extends_fill _ (b.extends_readWords count)
  | treeConnectRequest b => exact extends_fill _ (b.extends_readWords count)
  | treeConnectResponse b => exact extends_fill _ (b.extends_readWords count)
  | createRequest b => exact extends_fill _ (b.extends_readWords count)
  | createResponse b => exact extends_fill _ (b.extends_readWords count)
  | readRequest b => exact extends_fill _ (b.extends_readWords count)
  | readResponse b => exact extends_fill _ (b.extends_readWords count)
  | writeRequest b => exact extends_fill _ (b.extends_readWords count)
  | writeResponse b => exact extends_fill _ (b.extends_readWords count)
  | closeRequest b => exact extends_fill _ (b.extends_readWords count)
  | transactionRequest f => exact extends_fill _ (f.extends_readWords count)
  | transactionResponseFrame f => exact extends_fill _ (f.extends_readWords count)
  | transactionResponse x =>
    have wrapped : Decoder.filled ((transactionResponse x).readWords count) =
        transactionResponse <$> Decoder.filled x.readWords := Decoder.filled_map ..
    exact wrapped ▸ .map x.extends_readWords
  | logoff | empty _ => exact .pure

theorem extends_readBytes (b : Body) (count : Nat) :
    Extends (r.position + count) (Decoder.filled (b.readBytes count)) r := by
  cases b with
  | negotiateRequest b => exact extends_fill _ (b.extends_readBytes count)
  | negotiateResponse b => exact extends_fill _ (b.extends_readBytes count)
  | sessionSetupRequest b => exact extends_fill _ (b.extends_readBytes count)
  | sessionSetupResponse b => exact extends_fill _ (b.extends_readBytes count)
  | treeConnectRequest b => exact extends_fill _ (b.extends_readBytes count)
  | treeConnectResponse b => exact extends_fill _ (b.extends_readBytes count)
  | createRequest b => exact extends_fill _ (b.extends_readBytes count)
  | createResponse b => exact extends_fill (createResponse b) .pure
  | readRequest b => exact extends_fill (readRequest b) .pure
  | writeResponse b => exact extends_fill (writeResponse b) .pure
  | closeRequest b => exact extends_fill (closeRequest b) .pure
  | readResponse b => exact extends_fill _ (b.extends_readBytes count)
  | writeRequest b => exact extends_fill _ (b.extends_readBytes count)
  | checkDirectoryRequest b => exact extends_fill _ (b.extends_readBytes count)
  | transactionRequest f => exact extends_fill _ (f.extends_readBytes count)
  | transactionResponseFrame f => exact extends_fill _ (f.extends_readBytes count)
  | transactionResponse x =>
    have wrapped : Decoder.filled ((transactionResponse x).readBytes count) =
        transactionResponse <$> Decoder.filled x.readBytes := Decoder.filled_map ..
    exact wrapped ▸ .map x.extends_readBytes
  | logoff | empty _ => exact .pure

end Body

namespace Chain

theorem extends_readBlock : Extends limit readBlock r :=
  .bind .u8 fun _ _ => .bind .skip fun _ _ => .bind .u16 fun _ _ => .pure

theorem extends_readLinkHead (b : Body) : Extends limit (readLinkHead b) r :=
  .bind .u8 fun _ _ => .ite (.bind extends_readBlock fun _ _ => .pure)
    (.bind .pure fun _ _ => .pure)

theorem extends_readLinkWords (b : Body) (start : Nat) (rawCount : UInt8) :
    Extends limit (Decoder.filled (readLinkWords b start rawCount)) r :=
  .seeking (.filling (b.extends_readWords _)) _ _

/-- Reading the data bytes, if there may be any. -/
def fillBytes (b : Body) (rawCount : UInt8) (byteCount : Nat) (r : Reader) :
    Body × Except Error Reader :=
  if rawCount ≠ 0 ∨ byteCount ≠ 0 then b.readBytes byteCount r else (b, .ok r)

theorem extends_fillBytes (b : Body) (rawCount : UInt8) (byteCount : Nat) :
    Extends (r.position + byteCount) (Decoder.filled (fillBytes b rawCount byteCount)) r := by
  unfold fillBytes
  exact .filling (b.extends_readBytes byteCount)

theorem filled_readLinkBytes (b : Body) (rawCount : UInt8) :
    Decoder.filled (readLinkBytes b rawCount) =
      Decoder.u16 >>= fun byteCount => Decoder.position >>= fun here => Decoder.filled fun r =>
        ((fillBytes b rawCount byteCount.toNat r).1,
          (fillBytes b rawCount byteCount.toNat r).2 >>= (·.seekFrom here byteCount.toNat)) := by
  funext r
  rw [Decoder.bind_apply]
  unfold Decoder.filled readLinkBytes
  cases Decoder.u16 r <;> rfl

/-- The data bytes end where reading them does, so that is the limit. -/
theorem extends_readLinkBytes {b b' : Body} {rawCount : UInt8} {r' : Reader}
    (read : readLinkBytes b rawCount r = (b', .ok r')) :
    Extends r'.position (Decoder.filled (readLinkBytes b rawCount)) r := by
  have filled := Decoder.filled_eq_ok.mpr read
  rw [filled_readLinkBytes] at filled ⊢
  obtain ⟨byteCount, mid, taken, rest⟩ := Decoder.bind_eq_ok filled
  obtain ⟨here, mid', started, rest⟩ := Decoder.bind_eq_ok rest
  refine .bindOf .u16 taken (.bindOf .position started ?_)
  cases started
  rw [Decoder.position_of_filled rest]
  exact .seeking (extends_fillBytes b rawCount _) _ _

/-- Reading a link, as a decoder of its body and its successor. -/
def linkDecoder (b : Body) : Decoder (Body × Option Successor) := do
  let start ← Decoder.position
  let (rawCount, successor) ← readLinkHead b
  let b ← Decoder.filled (readLinkWords b start rawCount)
  let b ← Decoder.filled (readLinkBytes b rawCount)
  return (b, successor)

theorem linkDecoder_apply (b : Body) (r : Reader) : linkDecoder b r =
    match readLink b r with
    | (b, .ok (successor, r)) => .ok ((b, successor), r)
    | (_, .error e) => .error e := by
  unfold linkDecoder readLink
  rw [Decoder.bind_apply]
  simp only [Decoder.position, Decoder.bind_apply]
  cases readLinkHead b r with
  | error e => rfl
  | ok got =>
    obtain ⟨⟨rawCount, next⟩, mid⟩ := got
    simp only [Decoder.filled]
    rcases readLinkWords b r.position rawCount mid with ⟨b, e | mid⟩
    · rfl
    · dsimp only
      rcases readLinkBytes b rawCount mid with ⟨b, e | mid⟩ <;> rfl

theorem linkDecoder_eq_ok {b b' : Body} {successor : Option Successor} {r r' : Reader} :
    linkDecoder b r = .ok ((b', successor), r') ↔
      readLink b r = (b', .ok (successor, r')) := by
  rw [linkDecoder_apply]
  rcases readLink b r with ⟨c, e | ⟨next, mid⟩⟩
  · simp
  · simp [and_assoc]

theorem extends_readLink {b b' : Body} {successor : Option Successor} {r' : Reader}
    (read : readLink b r = (b', .ok (successor, r'))) : Extends r'.position (linkDecoder b) r := by
  have decoded := linkDecoder_eq_ok.mpr read
  unfold linkDecoder at decoded ⊢
  obtain ⟨start, here, started, rest⟩ := Decoder.bind_eq_ok decoded
  obtain ⟨⟨rawCount, next⟩, behindHead, head, rest⟩ := Decoder.bind_eq_ok rest
  obtain ⟨c, behindWords, words, rest⟩ := Decoder.bind_eq_ok rest
  obtain ⟨c', behindBytes, bytes, rest⟩ := Decoder.bind_eq_ok rest
  cases rest
  refine .bindOf .position started (.bindOf (extends_readLinkHead b) head ?_)
  refine .bindOf (extends_readLinkWords b start rawCount) words (.bindOf ?_ bytes .pure)
  exact extends_readLinkBytes (Decoder.filled_eq_ok.mp bytes)

theorem readLink_extended {b c : Body} {successor : Option Successor} {r' : Reader}
    (link : readLink b r = (c, .ok (successor, r'))) :
    r' = r.seek r'.position ∧ (r'.position ≤ r.length → ∀ tail,
      readLink b (r.extended tail) = (c, .ok (successor, r'.extended tail))) := by
  have linked := extends_readLink link
  have decoded := linkDecoder_eq_ok.mpr link
  exact ⟨linked.kept decoded, fun inside tail =>
    linkDecoder_eq_ok.mp (linked.longer decoded inside tail)⟩

end Chain

end Smb1
