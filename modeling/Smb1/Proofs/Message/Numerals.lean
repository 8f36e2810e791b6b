import Smb1.Proofs.Message.Body
import Smb1.Proofs.Transaction.Numerals

/-! The counts, lengths, sizes and offsets that bodies put on the wire, each with the number that
belongs there. Positions count from the first of a body's words. -/
namespace Smb1

open Wire Transaction

variable {start : Nat} {unicode : Bool}

namespace NegotiateResponse

/-- The challenge that is sent; the extended form has none. -/
def sentChallenge (b : NegotiateResponse) : Bytes :=
  if b.isExtendedSecurity then [] else b.challenge

def numerals (b : NegotiateResponse) : List Numeral :=
  [⟨.given, [(3, 2)], b.maxMpxCount.toNat⟩, ⟨.given, [(5, 2)], b.maxNumberVcs.toNat⟩,
    ⟨.given, [(7, 4)], b.maxBufferSize.toNat⟩, ⟨.given, [(11, 4)], b.maxRawSize.toNat⟩,
    ⟨.length b.sentChallenge, [(33, 1)], b.sentChallenge.length⟩]

theorem truncates_words (b : NegotiateResponse) :
    ∀ n ∈ b.numerals, n.Truncates (b.words.bytesAt start unicode) := by
  have length : (if b.isExtendedSecurity then 0 else UInt8.ofNat b.challenge.length) =
      UInt8.ofNat b.sentChallenge.length := by
    unfold sentChallenge
    split <;> rfl
  obtain ⟨ticks, time⟩ := Encoder.bytesAt_fileTime b.systemTime
  simp only [numerals, words, length, Encoder.bytesAt_append, Encoder.bytesAt_u8,
    Encoder.bytesAt_u16, Encoder.bytesAt_u32, time, List.append_assoc, List.forall_mem_cons,
    List.not_mem_nil, false_imp_iff, implies_true, and_true]
  exact ⟨.word b.maxMpxCount rfl, .word b.maxNumberVcs rfl, .word b.maxBufferSize rfl,
    .word b.maxRawSize rfl, .u8 rfl⟩

theorem describes_bytes (b : NegotiateResponse) :
    ∀ n ∈ b.numerals, n.Describes start (b.bytes.bytesAt start unicode) := by
  have sent : b.sentChallenge <:+: b.bytes.bytesAt start unicode := by
    unfold sentChallenge bytes
    split
    · exact List.nil_infix
    · simp only [Encoder.bytesAt_append, Encoder.bytesAt_piece, List.append_assoc]
      exact (List.prefix_append ..).isInfix
  simp only [numerals, Numeral.Describes, List.forall_mem_cons, List.not_mem_nil, false_imp_iff,
    implies_true, and_true, true_and]
  exact sent

end NegotiateResponse

namespace SessionSetupRequest

def numerals (b : SessionSetupRequest) : List Numeral :=
  [⟨.given, [(0, 2)], b.maxBufferSize.toNat⟩, ⟨.given, [(2, 2)], b.maxMpxCount.toNat⟩,
    ⟨.given, [(4, 2)], b.vcNumber.toNat⟩] ++
    match b.securityBlob with
    | some blob => [⟨.length blob, [(10, 2)], blob.length⟩]
    | none => [⟨.length b.caseInsensitivePassword, [(10, 2)], b.caseInsensitivePassword.length⟩,
        ⟨.length b.caseSensitivePassword, [(12, 2)], b.caseSensitivePassword.length⟩]

theorem truncates_words (b : SessionSetupRequest) :
    ∀ n ∈ b.numerals, n.Truncates (b.words.bytesAt start unicode) := by
  unfold numerals words
  cases b.securityBlob with
  | some blob =>
    simp only [List.cons_append, List.nil_append, List.forall_mem_cons, List.not_mem_nil,
      false_imp_iff, implies_true, and_true]
    exact ⟨.word b.maxBufferSize rfl, .word b.maxMpxCount rfl, .word b.vcNumber rfl, .u16 rfl⟩
  | none =>
    simp only [List.cons_append, List.nil_append, List.forall_mem_cons, List.not_mem_nil,
      false_imp_iff, implies_true, and_true]
    exact ⟨.word b.maxBufferSize rfl, .word b.maxMpxCount rfl, .word b.vcNumber rfl, .u16 rfl,
      .u16 rfl⟩

theorem describes_bytes (b : SessionSetupRequest) :
    ∀ n ∈ b.numerals, n.Describes start (b.bytes.bytesAt start unicode) := by
  unfold numerals bytes
  cases b.securityBlob with
  | some blob =>
    simp only [List.cons_append, List.nil_append, Numeral.Describes, List.forall_mem_cons,
      List.not_mem_nil, false_imp_iff, implies_true, and_true, true_and, Encoder.bytesAt_append,
      Encoder.bytesAt_piece, List.append_assoc]
    exact (List.prefix_append ..).isInfix
  | none =>
    simp only [List.cons_append, List.nil_append, Numeral.Describes, List.forall_mem_cons,
      List.not_mem_nil, false_imp_iff, implies_true, and_true, true_and, Encoder.bytesAt_append,
      Encoder.bytesAt_piece, List.append_assoc]
    exact ⟨(List.prefix_append ..).isInfix, List.infix_append' ..⟩

end SessionSetupRequest

namespace SessionSetupResponse

def numerals (b : SessionSetupResponse) : List Numeral :=
  match b.securityBlob with
  | some blob => [⟨.length blob, [(2, 2)], blob.length⟩]
  | none => []

theorem truncates_words (b : SessionSetupResponse) :
    ∀ n ∈ b.numerals, n.Truncates (b.words.bytesAt start unicode) := by
  unfold numerals words
  cases b.securityBlob with
  | some blob => exact List.forall_mem_singleton.mpr (.u16 rfl)
  | none => nofun

theorem describes_bytes (b : SessionSetupResponse) :
    ∀ n ∈ b.numerals, n.Describes start (b.bytes.bytesAt start unicode) := by
  unfold numerals bytes
  cases b.securityBlob with
  | some blob =>
    simp only [Numeral.Describes, List.forall_mem_singleton, true_and, Encoder.bytesAt_append,
      Encoder.bytesAt_piece, List.append_assoc]
    exact (List.prefix_append ..).isInfix
  | none => exact List.forall_mem_nil _

end SessionSetupResponse

namespace TreeConnectRequest

def numerals (b : TreeConnectRequest) : List Numeral :=
  [⟨.length b.password, [(2, 2)], b.password.length⟩]

theorem truncates_words (b : TreeConnectRequest) :
    ∀ n ∈ b.numerals, n.Truncates (b.words.bytesAt start unicode) :=
  List.forall_mem_singleton.mpr (.u16 rfl)

theorem describes_bytes (b : TreeConnectRequest) :
    ∀ n ∈ b.numerals, n.Describes start (b.bytes.bytesAt start unicode) := by
  simp only [numerals, bytes, Numeral.Describes, List.forall_mem_singleton, true_and,
    Encoder.bytesAt_append, Encoder.bytesAt_piece, List.append_assoc]
  exact (List.prefix_append ..).isInfix

end TreeConnectRequest

namespace CreateRequest

/-- The name without its terminator. -/
def name (b : CreateRequest) (unicode : Bool) : Bytes :=
  if unicode then Text.Utf16.encode b.fileName else Text.Latin1.encode b.fileName

theorem length_name (b : CreateRequest) (unicode : Bool) :
    b.nameLength unicode = (b.name unicode).length := by
  unfold nameLength name
  split
  · rw [Text.Utf16.length_encode, Nat.mul_comm]
  · rfl

theorem name_infix (b : CreateRequest) :
    b.name unicode <:+: b.bytes.bytesAt start unicode := by
  unfold name bytes Encoder.string
  cases unicode with
  | true =>
    simp only [Encoder.bytesAt_positioned, if_true, Encoder.unicodeString, Encoder.bytesAt_append,
      Encoder.bytesAt_utf16, ← Text.Utf16.encode.eq_1]
    exact ⟨_, _, List.append_assoc ..⟩
  | false =>
    simp only [Encoder.bytesAt_positioned, Bool.false_eq_true, if_false, Encoder.bytesAt_oemString]
    exact (List.prefix_append ..).isInfix

def numerals (b : CreateRequest) (unicode : Bool) : List Numeral :=
  [⟨.length (b.name unicode), [(1, 2)], b.nameLength unicode⟩,
    ⟨.given, [(15, 8)], b.allocationSize.toNat⟩]

theorem truncates_words (b : CreateRequest) :
    ∀ n ∈ b.numerals unicode, n.Truncates (b.words.bytesAt start unicode) := by
  simp only [numerals, words, Encoder.bytesAt_positioned, Encoder.bytesAt_append,
    Encoder.bytesAt_u8, Encoder.bytesAt_u16, Encoder.bytesAt_u32, Encoder.bytesAt_u64,
    List.append_assoc, List.forall_mem_cons, List.not_mem_nil, false_imp_iff, implies_true,
    and_true]
  exact ⟨.u16 rfl, .word b.allocationSize rfl⟩

theorem describes_bytes (b : CreateRequest) :
    ∀ n ∈ b.numerals unicode, n.Describes start (b.bytes.bytesAt start unicode) := by
  simp only [numerals, Numeral.Describes, List.forall_mem_cons, List.not_mem_nil, false_imp_iff,
    implies_true, and_true]
  exact ⟨b.length_name unicode, b.name_infix⟩

end CreateRequest

namespace CreateResponse

def numerals (b : CreateResponse) : List Numeral :=
  [⟨.given, [(43, 8)], b.allocationSize.toNat⟩, ⟨.given, [(51, 8)], b.endOfFile.toNat⟩]

theorem truncates_words (b : CreateResponse) :
    ∀ n ∈ b.numerals, n.Truncates (b.words.bytesAt start unicode) := by
  obtain ⟨_, creation⟩ := Encoder.bytesAt_fileTime b.creationTime
  obtain ⟨_, access⟩ := Encoder.bytesAt_fileTime b.lastAccessTime
  obtain ⟨_, write⟩ := Encoder.bytesAt_fileTime b.lastWriteTime
  obtain ⟨_, change⟩ := Encoder.bytesAt_fileTime b.changeTime
  simp only [numerals, words, Encoder.bytesAt_append, Encoder.bytesAt_u8, Encoder.bytesAt_u16,
    Encoder.bytesAt_u32, Encoder.bytesAt_u64, creation, access, write, change, List.append_assoc,
    List.forall_mem_cons, List.not_mem_nil, false_imp_iff, implies_true, and_true]
  exact ⟨.word b.allocationSize rfl, .word b.endOfFile rfl⟩

theorem describes_bytes (b : CreateResponse) {bytes : Bytes} :
    ∀ n ∈ b.numerals, n.Describes start bytes := by
  simp [numerals, Numeral.Describes]

end CreateResponse

namespace ReadRequest

def numerals (b : ReadRequest) : List Numeral :=
  [⟨.given, [(2, 4), (16, 4)], b.offset.toNat⟩, ⟨.given, [(6, 2), (10, 4)], b.maxCount.toNat⟩,
    ⟨.given, [(8, 2)], b.minCount.toNat⟩, ⟨.given, [(14, 2)], b.remaining.toNat⟩]

theorem truncates_words (b : ReadRequest) :
    ∀ n ∈ b.numerals, n.Truncates (b.words.bytesAt start unicode) := by
  simp only [numerals, List.forall_mem_cons, List.not_mem_nil, false_imp_iff, implies_true,
    and_true]
  exact ⟨.halves (encode_toUInt32 b.offset) (encode_high64 b.offset),
    .halves (encode_toUInt16 b.maxCount) (encode_high32 b.maxCount), .word b.minCount rfl,
    .word b.remaining rfl⟩

theorem describes_bytes (b : ReadRequest) {bytes : Bytes} :
    ∀ n ∈ b.numerals, n.Describes start bytes := by
  simp [numerals, Numeral.Describes]

end ReadRequest

namespace ReadResponse

def numerals (b : ReadResponse) (start : Nat) : List Numeral :=
  [⟨.given, [(0, 2)], b.available.toNat⟩, ⟨.length b.data, [(6, 2), (10, 2)], b.data.length⟩,
    ⟨.offset 0 b.data, [(8, 2)], Alignment.two.up (start + 22)⟩]

theorem truncates_words (b : ReadResponse) :
    ∀ n ∈ b.numerals start, n.Truncates (b.words.bytesAt start unicode) := by
  simp only [numerals, List.forall_mem_cons, List.not_mem_nil, false_imp_iff, implies_true,
    and_true]
  exact ⟨.word b.available rfl, .halves (leBytes_mod 2 b.data.length)
    (leBytes_mod 2 (b.data.length / 0x10000)), .u16 rfl⟩

theorem describes_bytes (b : ReadResponse) :
    ∀ n ∈ b.numerals start, n.Describes (start + 22) (b.bytes.bytesAt (start + 22) unicode) := by
  have le := Alignment.two.le_up (start + 22)
  simp only [numerals, bytes, Numeral.Describes, List.forall_mem_cons, List.not_mem_nil,
    false_imp_iff, implies_true, and_true, true_and, Nat.zero_add, Encoder.bytesAt_append,
    Encoder.bytesAt_align, Encoder.bytesAt_piece]
  refine ⟨(List.suffix_append ..).isInfix, fun _ => ⟨_, [], (List.append_nil _).symm, ?_⟩⟩
  rw [List.length_replicate]
  omega

end ReadResponse

namespace WriteRequest

def numerals (b : WriteRequest) (start : Nat) : List Numeral :=
  [⟨.given, [(2, 4), (20, 4)], b.offset.toNat⟩, ⟨.given, [(12, 2)], b.remaining.toNat⟩,
    ⟨.length b.data.bytes, [(16, 2), (14, 2)], b.data.length⟩,
    ⟨.offset 0 b.data.bytes, [(18, 2)], Alignment.four.up (start + 26)⟩]

theorem truncates_words (b : WriteRequest) :
    ∀ n ∈ b.numerals start, n.Truncates (b.words.bytesAt start unicode) := by
  simp only [numerals, words, Encoder.bytesAt_positioned, Encoder.bytesAt_append,
    Encoder.bytesAt_u16, Encoder.bytesAt_u32, List.append_assoc, List.forall_mem_cons,
    List.not_mem_nil, false_imp_iff, implies_true, and_true]
  exact ⟨.halves (encode_toUInt32 b.offset) (encode_high64 b.offset), .word b.remaining rfl,
    .halves (leBytes_mod 2 b.data.length) (leBytes_mod 2 (b.data.length / 0x10000)), .u16 rfl⟩

theorem describes_bytes (b : WriteRequest) :
    ∀ n ∈ b.numerals start, n.Describes (start + 26) (b.bytes.bytesAt (start + 26) unicode) := by
  have le := Alignment.four.le_up (start + 26)
  simp only [numerals, bytes, Numeral.Describes, List.forall_mem_cons, List.not_mem_nil,
    false_imp_iff, implies_true, and_true, true_and, Nat.zero_add, Encoder.bytesAt_append,
    Encoder.bytesAt_align, Encoder.bytesAt_piece, Payload.length_bytes]
  refine ⟨(List.suffix_append ..).isInfix, fun _ => ⟨_, [], (List.append_nil _).symm, ?_⟩⟩
  rw [List.length_replicate]
  omega

end WriteRequest

namespace WriteResponse

def numerals (b : WriteResponse) : List Numeral :=
  [⟨.given, [(0, 2), (4, 2)], b.count.toNat⟩, ⟨.given, [(2, 2)], b.available.toNat⟩]

theorem truncates_words (b : WriteResponse) :
    ∀ n ∈ b.numerals, n.Truncates (b.words.bytesAt start unicode) := by
  have high : Word.encode (b.count >>> 16).toUInt16 = leBytes 2 (b.count.toNat / capacity 2) := by
    rw [encode_toUInt16, toNat_high32]
    rfl
  simp only [numerals, List.forall_mem_cons, List.not_mem_nil, false_imp_iff, implies_true,
    and_true]
  exact ⟨.halves (encode_toUInt16 b.count) high, .word b.available rfl⟩

theorem describes_bytes (b : WriteResponse) {bytes : Bytes} :
    ∀ n ∈ b.numerals, n.Describes start bytes := by
  simp [numerals, Numeral.Describes]

end WriteResponse

namespace Body

/-- The numbers in the words of a body whose words start at `start`. -/
def numerals (start : Nat) (unicode : Bool) : Body → List Numeral
  | negotiateResponse b => b.numerals
  | sessionSetupRequest b => b.numerals
  | sessionSetupResponse b => b.numerals
  | treeConnectRequest b => b.numerals
  | createRequest b => b.numerals unicode
  | createResponse b => b.numerals
  | readRequest b => b.numerals
  | readResponse b => b.numerals start
  | writeRequest b => b.numerals start
  | writeResponse b => b.numerals
  | transactionRequest f => f.numerals start unicode
  | transactionResponseFrame f => f.numerals start
  | transactionResponse r => r.current.numerals start
  | negotiateRequest _ | treeConnectResponse _ | logoff | closeRequest _
  | checkDirectoryRequest _ | empty _ => []

theorem truncates_words (b : Body) :
    ∀ n ∈ b.numerals start unicode, n.Truncates (b.words.bytesAt start unicode) := by
  cases b with
  | negotiateResponse b => exact b.truncates_words
  | sessionSetupRequest b => exact b.truncates_words
  | sessionSetupResponse b => exact b.truncates_words
  | treeConnectRequest b => exact b.truncates_words
  | createRequest b => exact b.truncates_words
  | createResponse b => exact b.truncates_words
  | readRequest b => exact b.truncates_words
  | readResponse b => exact b.truncates_words
  | writeRequest b => exact b.truncates_words
  | writeResponse b => exact b.truncates_words
  | transactionRequest f => exact f.truncates_words
  | transactionResponseFrame f => exact f.truncates_words
  | transactionResponse r => exact r.current.truncates_words
  | negotiateRequest _ | treeConnectResponse _ | logoff | closeRequest _
  | checkDirectoryRequest _ | empty _ => nofun

/-- Behind the words stand the byte count and then what lengths and offsets tell of. -/
theorem describes_bytes (b : Body) :
    ∀ n ∈ b.numerals start unicode, n.Describes (start + b.wordsLength + 2)
      (b.bytes.bytesAt (start + b.wordsLength + 2) unicode) := by
  cases b with
  | negotiateResponse b => exact b.describes_bytes
  | sessionSetupRequest b => exact b.describes_bytes
  | sessionSetupResponse b => exact b.describes_bytes
  | treeConnectRequest b => exact b.describes_bytes
  | createRequest b => exact b.describes_bytes
  | createResponse b => exact b.describes_bytes
  | readRequest b => exact b.describes_bytes
  | readResponse b => exact b.describes_bytes
  | writeRequest b => exact b.describes_bytes
  | writeResponse b => exact b.describes_bytes
  | transactionRequest f => exact f.describes_bytes
  | transactionResponseFrame f => exact f.describes_bytes
  | transactionResponse r => exact r.current.describes_bytes
  | negotiateRequest _ | treeConnectResponse _ | logoff | closeRequest _
  | checkDirectoryRequest _ | empty _ => nofun

end Body

end Smb1
