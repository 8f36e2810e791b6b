import Smb1.Proofs.Transaction.Codec
import Smb1.Transaction.Reassembly

/-! A frame that arrives at a reassembly is the frame that was sent, as far as it goes on the
wire. -/
namespace Smb1.Transaction.Reassembly

open Wire

variable {start : Nat} {unicode : Bool}

/-- Words that make a frame make the current frame. -/
theorem readWords_of_frame {r : Reassembly} {f : ResponseFrame} {count : UInt8}
    {reader reader' : Reader}
    (h : (ResponseFrame.blank r.kind).readWords count reader = .ok (f, reader')) :
    r.readWords reader = ({ r with current := f }, .ok reader') := by
  have family : (ResponseFrame.blank r.kind).kind = r.kind := rfl
  unfold ResponseFrame.readWords at h
  unfold readWords
  rw [family] at h
  cases read : ResponseFrame.readCounts r.kind reader with
  | error e => simp [StateT.bind, read, Bind.bind, Except.bind] at h
  | ok got =>
    obtain ⟨counts, behind⟩ := got
    simp only [StateT.bind, read, Bind.bind, Except.bind] at h ⊢
    cases times : Decoder.times counts.setupCount.toNat Decoder.u16 behind with
    | error e => simp [times] at h
    | ok got =>
      obtain ⟨setup, last⟩ := got
      rw [times] at h
      obtain ⟨rfl, rfl⟩ := Prod.mk.inj (Except.ok.inj h)
      rfl

/-- Bytes that complete the current frame let it be folded in. -/
theorem readBytes_of_frame {r : Reassembly} {f : ResponseFrame} {count : Nat}
    {reader reader' : Reader} (h : r.current.readBytes count reader = .ok (f, reader')) :
    r.readBytes reader = (({ r with current := f }.accept f reader.unicode).1,
      ({ r with current := f }.accept f reader.unicode).2.map fun _ => reader) := by
  unfold ResponseFrame.readBytes at h
  unfold readBytes
  cases parameters : payloadAt reader r.current.received.parameters r.current.parameters.length with
  | error e => simp [parameters, Bind.bind, Except.bind] at h
  | ok bytes =>
    cases data : payloadAt reader r.current.received.data r.current.data.length with
    | error e => simp [parameters, data, Bind.bind, Except.bind] at h
    | ok bytes' =>
      simp only [parameters, data, Bind.bind, Except.bind, Except.ok.injEq, Prod.mk.injEq] at h
      obtain ⟨rfl, rfl⟩ := h
      simp only [parameters, data]

theorem fills_words {r : Reassembly} {f : ResponseFrame} (same : r.kind = f.kind)
    (h : f.Expressible) (small : f.parameters.length ≤ 0xFFFF ∧ f.data.length ≤ 0xFFFF) :
    Fills start unicode f.words r.readWords { r with current := f.announced start } := by
  intro before after len bound
  obtain ⟨position, read⟩ := (ResponseFrame.reads_words h 0 small).yields before after len bound
  exact ⟨position, readWords_of_frame (same ▸ read)⟩

/-- Folding a frame in does not look at where in its message the payloads lay. -/
theorem accept_onWire (r : Reassembly) (f : ResponseFrame) (offsets : Offsets) (unicode : Bool) :
    r.accept { f.onWire with received := offsets } unicode = r.accept f unicode := rfl

/-- Nor does it look at the frame that was read last. -/
theorem accept_current (r : Reassembly) (f current : ResponseFrame) (unicode : Bool) :
    { r with current }.accept f unicode =
      ({ (r.accept f unicode).1 with current }, (r.accept f unicode).2) := by
  have counted : { r with current }.count f = { r.count f with current } := by
    unfold count
    split <;> rfl
  have done : ({ r with current } : Reassembly).isComplete = r.isComplete := rfl
  unfold accept
  rw [done, counted]
  cases complete : r.isComplete with
  | true => rfl
  | false =>
    simp only [Bool.false_eq_true, if_false]
    cases (r.count f).parameters.accept .parameter f.parameterDisplacement.toNat
        f.parameters.bytes with
    | error e => rfl
    | ok parameters =>
      cases (r.count f).data.accept .data f.dataDisplacement.toNat f.data.bytes with
      | error e => rfl
      | ok data =>
        have finished : ({ r.count f with parameters, data, current } : Reassembly).isComplete =
          ({ r.count f with parameters, data } : Reassembly).isComplete := rfl
        simp only [finished]
        split
        · cases (r.count f).result.read parameters.bytes data.bytes unicode <;> rfl
        · rfl

theorem fills_bytes {r : Reassembly} {f : ResponseFrame} {bytesStart : Nat}
    (here : bytesStart = start + f.kind.responseWordsLength f.setup.length + 2)
    (fits : bytesStart + (f.bytes.bytesAt bytesStart unicode).length ≤ 0xFFFF)
    (accepted : (r.accept f unicode).2 = .ok ()) :
    Fills bytesStart unicode f.bytes
      ({ r with current := f.announced start } : Reassembly).readBytes
      { (r.accept f unicode).1 with current := f.returned start } := by
  intro before after len bound
  obtain ⟨position, read⟩ := f.yields_bytes 0 here fits before after len bound
  refine ⟨bytesStart, ?_⟩
  rw [readBytes_of_frame (r := { r with current := f.announced start }) read]
  have folded : { r with current := f.returned start }.accept (f.returned start) unicode =
      ({ (r.accept f unicode).1 with current := f.returned start }, .ok ()) := by
    rw [ResponseFrame.returned, accept_onWire, accept_current, accepted]
  rw [folded]
  rfl

end Smb1.Transaction.Reassembly
