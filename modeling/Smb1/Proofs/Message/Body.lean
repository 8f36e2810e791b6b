import Smb1.Message.Body
import Smb1.Proofs.File.Codec
import Smb1.Proofs.Setup.Codec
import Smb1.Proofs.Transaction.Arrival

/-! What all bodies have in common: a template of the right kind takes the words and bytes of a
body and holds the same fields afterwards. -/
namespace Smb1.Body

open Wire Transaction

variable {start : Nat} {unicode : Bool}

/-- A template for the body that one like `b` writes. -/
def fresh : Body → Body
  | negotiateRequest _ => negotiateRequest .standard
  | negotiateResponse _ => negotiateResponse .blank
  | sessionSetupRequest _ => sessionSetupRequest .blank
  | sessionSetupResponse _ => sessionSetupResponse .blank
  | treeConnectRequest _ => treeConnectRequest (.ofPath "")
  | treeConnectResponse _ => treeConnectResponse .blank
  | logoff => logoff
  | createRequest _ => createRequest (.ofName "" 0 .openExisting)
  | createResponse b => createResponse { CreateResponse.blank with extended := b.extended }
  | readRequest _ => readRequest (.ofRange 0 0 0)
  | readResponse _ => readResponse .blank
  | writeRequest _ => writeRequest (.ofData 0 0 [])
  | writeResponse _ => writeResponse ⟨0, 0⟩
  | closeRequest _ => closeRequest (.ofFid 0)
  | checkDirectoryRequest _ => checkDirectoryRequest ⟨""⟩
  | transactionRequest f => transactionRequest (.blank f.kind f.secondary)
  | transactionResponseFrame f => transactionResponseFrame (.blank f.kind)
  | transactionResponse r => transactionResponse (.start r.result)
  | empty command => empty command

/-- A body without the fields that it does not put on the wire. Of a response under reassembly,
that is the frame it is at. -/
def onWire : Body → Body
  | negotiateResponse b => negotiateResponse b.onWire
  | sessionSetupRequest b => sessionSetupRequest b.onWire
  | createResponse b => createResponse b.onWire
  | readResponse b => readResponse b.onWire
  | writeRequest b => writeRequest b.onWire
  | transactionRequest f => transactionRequest f.onWire
  | transactionResponseFrame f => transactionResponseFrame f.onWire
  | transactionResponse r => transactionResponseFrame r.current.onWire
  | b => b

/-- The fields on the wire can show what the body has. -/
def Expressible (unicode : Bool) : Body → Prop
  | negotiateRequest b => b.Expressible
  | negotiateResponse b => b.Expressible unicode
  | sessionSetupRequest b => b.Expressible unicode
  | sessionSetupResponse b => b.Expressible unicode
  | treeConnectRequest b => b.Expressible unicode
  | treeConnectResponse b => b.Expressible unicode
  | createRequest b => b.Expressible unicode
  | createResponse b => b.Expressible
  | checkDirectoryRequest b => b.Expressible unicode
  | transactionRequest f => f.Expressible unicode
  | transactionResponseFrame f => f.Expressible
  | transactionResponse r => r.current.Expressible ∧ r.current.kind = r.kind ∧
      r.result.kind = r.kind ∧
      ((Reassembly.start r.result).accept r.current unicode).2 = .ok ()
  | logoff | readRequest _ | readResponse _ | writeRequest _ | writeResponse _ | closeRequest _
  | empty _ => True

/-- Bytes of the parameter words without the chain block. -/
def wordsLength : Body → Nat
  | negotiateRequest _ | logoff | checkDirectoryRequest _ | empty _ => 0
  | negotiateResponse _ => 34
  | sessionSetupRequest b => if b.securityBlob.isSome then 20 else 22
  | sessionSetupResponse b => if b.securityBlob.isSome then 4 else 2
  | treeConnectRequest _ => 4
  | treeConnectResponse b => if b.accessRights.isSome then 10 else 2
  | createRequest _ => 44
  | createResponse b => if b.extended then 96 else 64
  | readRequest _ | readResponse _ => 20
  | writeRequest _ => 24
  | writeResponse _ => 8
  | closeRequest _ => 6
  | transactionRequest f => f.wordsLength
  | transactionResponseFrame f => f.kind.responseWordsLength f.setup.length
  | transactionResponse r => r.current.kind.responseWordsLength r.current.setup.length

@[simp] theorem length_words (b : Body) (start : Nat) (unicode : Bool) :
    (b.words.bytesAt start unicode).length = b.wordsLength := by
  cases b with
  | negotiateRequest b | logoff | checkDirectoryRequest b | empty c => rfl
  | negotiateResponse b => simp [words, NegotiateResponse.words, wordsLength]
  | sessionSetupRequest b =>
    cases blob : b.securityBlob <;> simp [words, SessionSetupRequest.words, wordsLength, blob]
  | sessionSetupResponse b =>
    cases blob : b.securityBlob <;> simp [words, SessionSetupResponse.words, wordsLength, blob]
  | treeConnectRequest b => simp [words, TreeConnectRequest.words, wordsLength]
  | treeConnectResponse b =>
    cases rights : b.accessRights <;> simp [words, TreeConnectResponse.words, wordsLength, rights]
  | createRequest b => simp [words, CreateRequest.words, wordsLength]
  | createResponse b =>
    cases extended : b.extended <;>
      simp [words, CreateResponse.words, wordsLength, extended, b.volumeGuid.property]
  | readRequest b => simp [words, ReadRequest.words, wordsLength]
  | readResponse b => simp [words, ReadResponse.words, wordsLength]
  | writeRequest b => simp [words, WriteRequest.words, wordsLength]
  | writeResponse b => simp [words, WriteResponse.words, wordsLength]
  | closeRequest b => simp [words, CloseRequest.words, wordsLength]
  | transactionRequest f => exact f.length_words start unicode
  | transactionResponseFrame f => exact f.length_words start unicode
  | transactionResponse r => exact r.current.length_words start unicode

theorem wordsLength_even (b : Body) : b.wordsLength % 2 = 0 := by
  cases b with
  | sessionSetupRequest b | sessionSetupResponse b | treeConnectResponse b | createResponse b =>
    simp only [wordsLength]
    split <;> rfl
  | transactionRequest f =>
    simp only [wordsLength, RequestFrame.wordsLength, Kind.primaryWordsLength,
      Kind.secondaryWordsLength]
    split
    · split <;> rfl
    · split <;> omega
  | transactionResponseFrame f | transactionResponse r =>
    simp only [wordsLength, Kind.responseWordsLength]
    split <;> omega
  | _ => simp only [wordsLength, Nat.reduceMod]

/-- Bytes of the chain block of a body. -/
def blockSize (b : Body) : Nat := if b.isAndX then 4 else 0

/-- Words of a link, those of the chain block included. -/
def wordCount (b : Body) : Nat := (b.blockSize + b.wordsLength) / 2

theorem wordCount_chained {b : Body} (chained : b.isAndX = true) :
    b.wordCount = (4 + b.wordsLength) / 2 := by rw [wordCount, blockSize, if_pos chained]

theorem wordCount_alone {b : Body} (alone : b.isAndX = false) :
    b.wordCount = b.wordsLength / 2 := by
  rw [wordCount, blockSize, if_neg (Bool.not_eq_true _ ▸ alone), Nat.zero_add]

theorem isAndX_transaction (k : Kind) :
    k.primary.isAndX = false ∧ k.secondary.isAndX = false := by cases k <;> decide

theorem wordCount_le {b : Body} (h : b.Expressible unicode) : b.wordCount ≤ 255 := by
  cases b with
  | sessionSetupRequest b | sessionSetupResponse b | treeConnectResponse b | createResponse b =>
    simp only [wordCount, blockSize, wordsLength]
    split <;> split <;> omega
  | transactionRequest f =>
    have alone : (transactionRequest f).isAndX = false := by
      simp only [isAndX, command, RequestFrame.command]
      split <;> simp only [isAndX_transaction]
    rw [wordCount_alone alone]
    exact h.words
  | transactionResponseFrame f =>
    have alone : (transactionResponseFrame f).isAndX = false := (isAndX_transaction f.kind).1
    rw [wordCount_alone alone]
    exact h.words
  | transactionResponse r =>
    have alone : (transactionResponse r).isAndX = false := (isAndX_transaction r.kind).1
    rw [wordCount_alone alone]
    exact h.1.words
  | _ =>
    simp only [wordCount, blockSize, wordsLength]
    split <;> omega

theorem wordCountAdjustment_zero (b : Body) : b.wordCountAdjustment 0 = 0 := by
  cases b with
  | createResponse b =>
    simp [wordCountAdjustment, CreateResponse.wordCountAdjustment,
      CreateResponse.reportedExtendedWordCount]
  | _ => rfl

/-- What happens to a link's template when the link of `b` is read: `mid` has its words, and `r`
its bytes, too. Words and bytes that are not there are not read. -/
structure Takes (start : Nat) (unicode : Bool) (t b mid r : Body) : Prop where
  command : t.command = b.command
  chained : t.isAndX = b.isAndX
  count : (b.reportedWordCount (UInt8.ofNat b.wordCount)).toNat +
    (t.wordCountAdjustment (b.reportedWordCount (UInt8.ofNat b.wordCount))).toNat = b.wordCount
  words : Fills start unicode b.words (t.readWords (UInt8.ofNat b.wordCount)) mid
  bytes : Fills (start + b.wordsLength + 2) unicode b.bytes
    (mid.readBytes (b.bytes.bytesAt (start + b.wordsLength + 2) unicode).length) r
  wordless : b.wordsLength = 0 → mid = t
  hollow : b.wordCount = 0 →
    (b.bytes.bytesAt (start + b.wordsLength + 2) unicode).length = 0 → r = mid

theorem command_fresh {b : Body} (h : b.Expressible unicode) : b.fresh.command = b.command := by
  cases b with
  | transactionResponse r =>
    show r.result.kind.primary = r.kind.primary
    rw [h.2.2.1]
  | _ => rfl

theorem isAndX_fresh {b : Body} (h : b.Expressible unicode) : b.fresh.isAndX = b.isAndX := by
  have same := command_fresh h
  cases b with
  | transactionResponse r => exact congrArg Command.isAndX same
  | _ => rfl

theorem count_fresh {b : Body} (h : b.Expressible unicode) :
    (b.reportedWordCount (UInt8.ofNat b.wordCount)).toNat +
      (b.fresh.wordCountAdjustment (b.reportedWordCount (UInt8.ofNat b.wordCount))).toNat =
        b.wordCount := by
  have small : (UInt8.ofNat b.wordCount).toNat = b.wordCount :=
    UInt8.toNat_ofNat_of_lt' (show _ < 256 from Nat.lt_succ_of_le (wordCount_le h))
  cases b with
  | createResponse b =>
    rw [wordCount_chained rfl]
    cases extended : b.extended <;>
      simp [wordsLength, fresh, reportedWordCount, CreateResponse.reportedWordCount,
        wordCountAdjustment, CreateResponse.wordCountAdjustment, CreateResponse.extendedWordCount,
        CreateResponse.reportedExtendedWordCount, extended]
  | _ => exact small

theorem fills_fill (t : Body) {wrap : α → Body} {e : Encoder} {d : Decoder α} {a : α}
    (h : Yields start unicode e d a) : Fills start unicode e (t.fill wrap d) (wrap a) := by
  intro before after len bound
  obtain ⟨position, read⟩ := h before after len bound
  refine ⟨position, ?_⟩
  unfold fill
  rw [read]

theorem fills_none (t : Body) : Fills start unicode ∅ (fun reader => (t, .ok reader)) t :=
  fun _ _ _ _ => ⟨start, rfl⟩

/-- A body with parameter words of its own has them read, and its bytes, too. -/
theorem takes_of_words {b mid r : Body} (h : b.Expressible unicode) (some : 0 < b.wordsLength)
    (words : Fills start unicode b.words (b.fresh.readWords (UInt8.ofNat b.wordCount)) mid)
    (bytes : Fills (start + b.wordsLength + 2) unicode b.bytes
      (mid.readBytes (b.bytes.bytesAt (start + b.wordsLength + 2) unicode).length) r) :
    Takes start unicode b.fresh b mid r where
  command := command_fresh h
  chained := isAndX_fresh h
  count := count_fresh h
  words := words
  bytes := bytes
  wordless none := by omega
  hollow none := by
    have even := b.wordsLength_even
    unfold wordCount at none
    omega

/-- A request frame is read into the template of its family and of its place in the sequence. -/
theorem takes_transactionRequest {f : RequestFrame} (h : f.Expressible unicode)
    (fits : start + f.wordsLength + 2 +
      (f.bytes.bytesAt (start + f.wordsLength + 2) unicode).length ≤ 0xFFFF) :
    Takes start unicode (transactionRequest (.blank f.kind f.secondary)) (transactionRequest f)
      (transactionRequest (f.announced start unicode))
      (transactionRequest (f.returned start unicode)) := by
  have lengths := RequestFrame.small_of_bytes_fit fits
  have some : 0 < (transactionRequest f).wordsLength := by
    simp only [wordsLength, RequestFrame.wordsLength, Kind.primaryWordsLength]
    split
    · cases f.kind <;> decide
    · split <;> omega
  have own : (transactionRequest f).Expressible unicode := h
  exact takes_of_words own some (fills_fill _ (RequestFrame.yields_words h _ lengths))
    (fills_fill _ (RequestFrame.yields_bytes h rfl fits))

/-- A response takes a frame of its family in when it accepts it. -/
theorem takes_arrival {r : Reassembly} {f : ResponseFrame} (same : r.kind = f.kind)
    (h : f.Expressible) (accepted : (r.accept f unicode).2 = .ok ())
    (fits : start + f.kind.responseWordsLength f.setup.length + 2 + (f.bytes.bytesAt
      (start + f.kind.responseWordsLength f.setup.length + 2) unicode).length ≤ 0xFFFF) :
    Takes start unicode (transactionResponse r) (transactionResponseFrame f)
      (transactionResponse { r with current := f.announced start })
      (transactionResponse { (r.accept f unicode).1 with current := f.returned start }) := by
  have own : (transactionResponseFrame f).Expressible unicode := h
  have command : (transactionResponse r).command = (transactionResponseFrame f).command :=
    congrArg Kind.primary same
  have some : 0 < (transactionResponseFrame f).wordsLength := f.kind.responseWordsLength_pos _
  have even := (transactionResponseFrame f).wordsLength_even
  exact {
    command
    chained := congrArg Command.isAndX command
    count := count_fresh own
    words := (Reassembly.fills_words same h (small_of_fits fits)).map transactionResponse
    bytes := (Reassembly.fills_bytes rfl fits accepted).map transactionResponse
    wordless := fun none => by omega
    hollow := fun none => by
      unfold wordCount at none
      omega }

/-- A template gets back what goes on the wire. -/
theorem takes_fresh {b : Body} (h : b.Expressible unicode)
    (fits : start + b.wordsLength + 2 +
      (b.bytes.bytesAt (start + b.wordsLength + 2) unicode).length ≤ 0xFFFF) :
    ∃ mid r, Takes start unicode b.fresh b mid r ∧ r.onWire = b.onWire := by
  have small : (b.bytes.bytesAt (start + b.wordsLength + 2) unicode).length ≤ 0xFFFF := by omega
  cases b with
  | negotiateRequest b =>
    refine ⟨_, _, ⟨rfl, rfl, count_fresh h,
      fills_fill (negotiateRequest .standard) Reads.pure.yields,
      fills_fill (negotiateRequest .standard) (NegotiateRequest.reads_bytes h _).yields,
      fun _ => rfl, fun _ none => ?_⟩, rfl⟩
    have some : b.dialects.length ≤ ((NegotiateRequest.bytes ⟨b.dialects⟩).bytesAt
        (start + 0 + 2) unicode).length := NegotiateRequest.length_le b.dialects
    have nonempty := List.length_pos_iff.mpr h.nonempty
    exact absurd (Nat.le_trans some (Nat.le_of_eq none)) (by omega)
  | negotiateResponse b =>
    refine ⟨_, _, takes_of_words h (by simp only [wordsLength]; omega)
      (fills_fill _ (NegotiateResponse.reads_words h _).yields)
      (fills_fill _ (NegotiateResponse.reads_bytes h).yields), ?_⟩
    exact congrArg negotiateResponse b.onWire_received
  | sessionSetupRequest b =>
    have form : UInt8.ofNat (sessionSetupRequest b).wordCount =
        SessionSetupRequest.extendedWordCount ↔ b.securityBlob.isSome := by
      rw [wordCount_chained rfl, wordsLength]
      cases b.securityBlob.isSome <;> decide
    refine ⟨_, _, takes_of_words h (by simp only [wordsLength]; split <;> omega)
      (fills_fill _ (SessionSetupRequest.reads_words h form small).yields)
      (fills_fill _ (SessionSetupRequest.reads_bytes h).yields), ?_⟩
    exact congrArg sessionSetupRequest b.onWire_onWire
  | sessionSetupResponse b =>
    have form : 4 ≤ UInt8.ofNat (sessionSetupResponse b).wordCount ↔ b.securityBlob.isSome := by
      rw [wordCount_chained rfl, wordsLength]
      cases b.securityBlob.isSome <;> decide
    exact ⟨_, _, takes_of_words h (by simp only [wordsLength]; split <;> omega)
      (fills_fill _ (SessionSetupResponse.reads_words form small).yields)
      (fills_fill _ (SessionSetupResponse.reads_bytes h).yields), rfl⟩
  | treeConnectRequest b =>
    exact ⟨_, _, takes_of_words h (by simp only [wordsLength]; omega)
      (fills_fill _ (TreeConnectRequest.reads_words b _ _ small).yields)
      (fills_fill _ (TreeConnectRequest.reads_bytes h _).yields), rfl⟩
  | treeConnectResponse b =>
    have form : 7 ≤ UInt8.ofNat (treeConnectResponse b).wordCount ↔ b.accessRights.isSome := by
      rw [wordCount_chained rfl, wordsLength]
      cases b.accessRights.isSome <;> decide
    exact ⟨_, _, takes_of_words h (by simp only [wordsLength]; split <;> omega)
      (fills_fill _ (TreeConnectResponse.reads_words form).yields)
      (fills_fill _ (TreeConnectResponse.reads_bytes h).yields), rfl⟩
  | logoff =>
    exact ⟨_, _, ⟨rfl, rfl, count_fresh h, fills_none _, fills_none _, fun _ => rfl,
      fun _ _ => rfl⟩, rfl⟩
  | createRequest b =>
    exact ⟨_, _, takes_of_words h (by simp only [wordsLength]; omega)
      (fills_fill _ (CreateRequest.reads_words h _ _).yields)
      (fills_fill _ (CreateRequest.reads_bytes h _).yields), rfl⟩
  | createResponse b =>
    have whole : b.extended → CreateResponse.extendedWordCount ≤
        UInt8.ofNat (createResponse b).wordCount := fun extended => by
      rw [wordCount_chained rfl, wordsLength, if_pos extended]
      decide
    refine ⟨_, _, takes_of_words h (by simp only [wordsLength]; split <;> omega)
      (fills_fill _ (CreateResponse.reads_words h whole).yields)
      (fills_none (createResponse b.onWire)), ?_⟩
    exact congrArg createResponse b.onWire_onWire
  | readRequest b =>
    have whole : 12 ≤ UInt8.ofNat (readRequest b).wordCount := by
      rw [wordCount_chained rfl, wordsLength]
      decide
    exact ⟨_, _, takes_of_words h (by simp only [wordsLength]; omega)
      (fills_fill _ (ReadRequest.reads_words b _ whole).yields)
      (fills_none (readRequest b)), rfl⟩
  | readResponse b =>
    exact ⟨_, _, takes_of_words h (by simp only [wordsLength]; omega)
      (fills_fill _ (ReadResponse.reads_words b _).yields)
      (fills_fill _ (b.yields_bytes _ fits)), rfl⟩
  | writeRequest b =>
    have whole : 14 ≤ UInt8.ofNat (writeRequest b).wordCount := by
      rw [wordCount_chained rfl, wordsLength]
      decide
    exact ⟨_, _, takes_of_words h (by simp only [wordsLength]; omega)
      (fills_fill _ (WriteRequest.reads_words (WriteRequest.short_of_fits fits) _ whole).yields)
      (fills_fill _ (b.yields_bytes _ fits)), rfl⟩
  | writeResponse b =>
    exact ⟨_, _, takes_of_words h (by simp only [wordsLength]; omega)
      (fills_fill _ (WriteResponse.reads_words b _ _).yields)
      (fills_none (writeResponse b)), rfl⟩
  | closeRequest b =>
    exact ⟨_, _, takes_of_words h (by simp only [wordsLength]; omega)
      (fills_fill _ (CloseRequest.reads_words b _ _).yields)
      (fills_none (closeRequest b)), rfl⟩
  | checkDirectoryRequest b =>
    refine ⟨_, _, ⟨rfl, rfl, count_fresh h,
      fills_fill (checkDirectoryRequest ⟨""⟩) Reads.pure.yields,
      fills_fill (checkDirectoryRequest ⟨""⟩) (CheckDirectoryRequest.reads_bytes h _).yields,
      fun _ => rfl, fun _ none => ?_⟩, rfl⟩
    simp [bytes, CheckDirectoryRequest.bytes] at none
  | transactionRequest f =>
    exact ⟨_, _, takes_transactionRequest h fits,
      congrArg transactionRequest (f.onWire_returned start unicode)⟩
  | transactionResponseFrame f =>
    have lengths := small_of_fits fits
    refine ⟨_, _, takes_of_words h ?_
      (fills_fill _ (ResponseFrame.reads_words h _ lengths).yields)
      (fills_fill _ (ResponseFrame.yields_bytes f _ rfl fits)), ?_⟩
    · exact f.kind.responseWordsLength_pos f.setup.length
    · exact congrArg transactionResponseFrame (f.onWire_returned start)
  | transactionResponse r =>
    have ⟨shows, frame, family, accepted⟩ := h
    have lengths := small_of_fits fits
    have same : (Reassembly.start r.result).kind = r.current.kind := by rw [frame, ← family]; rfl
    have words : Fills start unicode r.current.words (Reassembly.start r.result).readWords
        { Reassembly.start r.result with current := r.current.announced start } :=
      Reassembly.fills_words same shows lengths
    have bytes := Reassembly.fills_bytes rfl fits accepted
    refine ⟨_, _, takes_of_words h (r.current.kind.responseWordsLength_pos _)
      (words.map transactionResponse) (bytes.map transactionResponse), ?_⟩
    exact congrArg transactionResponseFrame (r.current.onWire_returned start)
  | empty command =>
    exact ⟨_, _, ⟨rfl, rfl, count_fresh h, fills_none _, fills_none _, fun _ => rfl,
      fun _ _ => rfl⟩, rfl⟩

end Smb1.Body
