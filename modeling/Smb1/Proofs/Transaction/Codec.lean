import Smb1.Proofs.Wire.Fields
import Smb1.Proofs.Wire.Text
import Smb1.Transaction.RequestFrame
import Smb1.Transaction.ResponseFrame

/-! Transaction frames read back what they wrote. The parameter words name the places of the two
payloads, and the payloads are picked from there. -/
namespace Smb1.Transaction

open Wire

variable {limit start : Nat} {unicode : Bool}

/-- What a count field of a family shows of a number. -/
def Kind.shown (k : Kind) (n : Nat) : Nat := n % (k.maxTotal + 1)

theorem Kind.shown_of_le {k : Kind} {n : Nat} (h : n ≤ k.maxTotal) : k.shown n = n :=
  Nat.mod_eq_of_lt (Nat.lt_succ_of_le h)

/-- Every family has count fields of two bytes at least. -/
theorem Kind.shown_of_small {k : Kind} {n : Nat} (small : n ≤ 0xFFFF) : k.shown n = n := by
  have least : 0xFFFF ≤ k.maxTotal := by cases k <;> decide
  exact shown_of_le (Nat.le_trans small least)

theorem Kind.maxTotal_of_ne {k : Kind} (h : k ≠ .ntTransact) : k.maxTotal = 0xFFFF := by
  cases k with
  | ntTransact => exact absurd rfl h
  | _ => rfl

theorem Kind.alignment_le (k : Kind) : k.alignment.value ≤ 4 := by cases k <;> decide

theorem Kind.responseWordsLength_pos (k : Kind) (setupCount : Nat) :
    0 < k.responseWordsLength setupCount := by
  unfold responseWordsLength
  split <;> omega

theorem toUInt32_toUInt16 {n : UInt32} (h : n.toNat ≤ 0xFFFF) : n.toUInt16.toUInt32 = n := by
  apply UInt32.toNat_inj.mp
  rw [UInt16.toNat_toUInt32, UInt32.toNat_toUInt16]
  omega

theorem toUInt32_ofNat_toNat {n : UInt32} (h : n.toNat ≤ 0xFFFF) :
    (UInt16.ofNat n.toNat).toUInt32 = n := by
  apply UInt32.toNat_inj.mp
  rw [UInt16.toNat_toUInt32, UInt16.toNat_ofNat']
  omega

theorem Kind.toNat_ofNat_shown (k : Kind) (n : Nat) :
    (UInt32.ofNat (k.shown n)).toNat = k.shown n := by
  have most : k.maxTotal < 2 ^ 32 := by cases k <;> decide
  have lt := Nat.mod_lt n (show k.maxTotal + 1 > 0 by omega)
  exact UInt32.toNat_ofNat_of_lt' (show _ < 2 ^ 32 by unfold Kind.shown; omega)

theorem Kind.toNat_ofNat {k : Kind} {n : Nat} (h : n ≤ k.maxTotal) :
    (UInt32.ofNat n).toNat = n := by
  have value := k.toNat_ofNat_shown n
  rwa [shown_of_le h] at value

theorem ofNat_shown_ntTransact (n : Nat) :
    UInt32.ofNat (Kind.ntTransact.shown n) = UInt32.ofNat n := by
  apply UInt32.toNat_inj.mp
  simp only [UInt32.toNat_ofNat', Kind.shown, Kind.maxTotal]
  omega

theorem toNat_ofNat_ntTransact (n : Nat) :
    (UInt32.ofNat n).toNat = Kind.ntTransact.shown n := by
  rw [← ofNat_shown_ntTransact, Kind.toNat_ofNat_shown]

theorem toNat_ofNat_short {n : Nat} (h : n ≤ 0xFFFF) : (UInt32.ofNat n).toNat = n :=
  UInt32.toNat_ofNat_of_lt' (show _ < 2 ^ 32 by omega)

theorem toUInt32_ofNat_shown {k : Kind} (short : k ≠ .ntTransact) (n : Nat) :
    (UInt16.ofNat n).toUInt32 = UInt32.ofNat (k.shown n) := by
  have limit := Kind.maxTotal_of_ne short
  apply UInt32.toNat_inj.mp
  simp only [UInt16.toNat_toUInt32, UInt16.toNat_ofNat', UInt32.toNat_ofNat', Kind.shown, limit]
  omega

theorem toNat_ofNat16 {k : Kind} (short : k ≠ .ntTransact) (n : Nat) :
    (UInt16.ofNat n).toNat = k.shown n := by
  rw [← UInt16.toNat_toUInt32, toUInt32_ofNat_shown short, Kind.toNat_ofNat_shown]

/-- The two payloads of a frame, the second only where it has bytes. -/
def payloads (a : Alignment) (parameters data : Payload) : Encoder :=
  aligned a parameters.bytes ++ if data.length = 0 then ∅ else aligned a data.bytes

/-- Where the second payload lies when the first starts behind `start`. -/
def dataStart (a : Alignment) (start : Nat) (parameters : Payload) : Nat :=
  a.up (a.up start + parameters.length)

theorem length_payloads (a : Alignment) (parameters data : Payload) :
    start + ((payloads a parameters data).bytesAt start unicode).length =
      if data.length = 0 then a.up start + parameters.length
      else dataStart a start parameters + data.length := by
  have first := length_aligned a parameters.bytes start unicode
  simp only [payloads, Encoder.bytesAt_append, List.length_append, ← Nat.add_assoc, first,
    Payload.length_bytes]
  split
  · simp
  · rw [length_aligned, Payload.length_bytes, dataStart]

/-- What fits into a message has short payloads. -/
theorem small_of_fits {a : Alignment} {parameters data : Payload}
    (fits : start + ((payloads a parameters data).bytesAt start unicode).length ≤ 0xFFFF) :
    parameters.length ≤ 0xFFFF ∧ data.length ≤ 0xFFFF := by
  have le := a.le_up (a.up start + parameters.length)
  rw [length_payloads] at fits
  unfold dataStart at fits
  split at fits <;> omega

theorem payloadAt_of_slice {r : Reader} {k : Kind} {offset : Nat} {payload : Payload}
    (inside : payload.length ≠ 0 → offset ≤ 0xFFFF)
    (picked : payload.length ≠ 0 → r.slice offset payload.bytes.length = .ok payload.bytes) :
    payloadAt r (k.shown offset) payload.length = .ok payload.bytes := by
  unfold payloadAt
  split
  next empty =>
    have none : payload.bytes = [] := List.eq_nil_of_length_eq_zero (by simpa using empty)
    rw [none]
  next some =>
    have picked := picked some
    rw [Payload.length_bytes] at picked
    rw [Kind.shown_of_small (inside some), picked]

/-- Both payloads are found where the offsets say, wherever the cursor is. -/
theorem payloadAt_payloads (k : Kind) (parameters data : Payload) {before : Bytes} (after : Bytes)
    (position : Nat) (len : before.length = start)
    (fits : start + ((payloads k.alignment parameters data).bytesAt start unicode).length ≤ 0xFFFF)
    (bound : (before ++ (payloads k.alignment parameters data).bytesAt start unicode ++
      after).length < Wire.memoryLimit) :
    let r : Reader := ⟨before ++ (payloads k.alignment parameters data).bytesAt start unicode ++
      after, position, unicode⟩
    payloadAt r (k.shown (k.alignment.up start)) parameters.length = .ok parameters.bytes ∧
      payloadAt r (k.shown (dataStart k.alignment start parameters)) data.length =
        .ok data.bytes := by
  have first := length_aligned k.alignment parameters.bytes start unicode
  rw [length_payloads] at fits
  have le := k.alignment.le_up (k.alignment.up start + parameters.length)
  constructor
  · refine payloadAt_of_slice (fun _ => ?_) fun _ => ?_
    · unfold dataStart at fits
      split at fits <;> omega
    · simp only [payloads, Encoder.bytesAt_append, ← List.append_assoc] at bound ⊢
      rw [List.append_assoc _ _ after] at bound ⊢
      exact slice_aligned _ _ _ unicode position len bound
  · refine payloadAt_of_slice (fun some => ?_) fun some => ?_
    · rw [if_neg some] at fits
      omega
    · simp only [payloads, Encoder.bytesAt_append, if_neg some, ← List.append_assoc] at bound ⊢
      rw [Payload.length_bytes] at first
      rw [dataStart, ← first]
      exact slice_aligned _ _ _ unicode position (by rw [List.length_append, len]) bound

theorem length_setup (words : List UInt16) (start : Nat) (unicode : Bool) :
    ((Encoder.concat (words.map .u16)).bytesAt start unicode).length = words.length * 2 := by
  induction words generalizing start with
  | nil => rfl
  | cons w rest ih =>
    simp only [List.map_cons, Encoder.concat_cons, Encoder.bytesAt_append, List.length_append, ih,
      List.length_cons, Encoder.bytesAt_u16, Word.length_encode, size_u16]
    omega

namespace ResponseFrame

structure Expressible (f : ResponseFrame) : Prop where
  totalParameterCount : f.totalParameterCount.toNat ≤ f.kind.maxTotal
  totalDataCount : f.totalDataCount.toNat ≤ f.kind.maxTotal
  parameterDisplacement : f.parameterDisplacement.toNat ≤ f.kind.maxTotal
  dataDisplacement : f.dataDisplacement.toNat ≤ f.kind.maxTotal
  words : f.kind.responseWordsLength f.setup.length / 2 ≤ 255

/-- Where a received frame had its payloads is no part of what was sent. -/
def onWire (f : ResponseFrame) : ResponseFrame :=
  { f with
    parameters := .held f.parameters.bytes, data := .held f.data.bytes, received := ⟨0, 0⟩ }

/-- What the fixed parameter words say when they start at `start`. -/
def countsAt (f : ResponseFrame) (start : Nat) : Counts where
  totalParameters := f.totalParameterCount
  totalData := f.totalDataCount
  parameterCount := UInt32.ofNat f.parameters.length
  parameterOffset := UInt32.ofNat (f.kind.shown (f.offsets start).parameters)
  parameterDisplacement := f.parameterDisplacement
  dataCount := UInt32.ofNat f.data.length
  dataOffset := UInt32.ofNat (f.kind.shown (f.offsets start).data)
  dataDisplacement := f.dataDisplacement
  setupCount := UInt8.ofNat f.setup.length

theorem reads_counts {f : ResponseFrame} (h : f.Expressible) (position : Nat)
    (small : f.parameters.length ≤ 0xFFFF ∧ f.data.length ≤ 0xFFFF) :
    Reads limit start unicode (f.countWords (f.offsets position)) (readCounts f.kind)
      (f.countsAt position) := by
  by_cases nt : f.kind = .ntTransact
  · simp only [countWords, readCounts, if_pos nt, List.map_cons, List.map_nil,
      List.cons_append, List.nil_append, Encoder.concat_cons, Encoder.concat_nil,
      Encoder.append_assoc, Encoder.empty_append]
    refine .bind (.skip (by simp)) fun _ => .bind .u32 fun _ => .bind .u32 fun _ => ?_
    refine .bind .u32 fun _ => .bind .u32 fun _ => .bind .u32 fun _ => .bind .u32 fun _ => ?_
    refine .bind .u32 fun _ => .bind .u32 fun _ => .last .u8 ?_
    simp only [countsAt, UInt32.ofNat_toNat, nt, ofNat_shown_ntTransact]
  · have limit : f.kind.maxTotal = 0xFFFF := Kind.maxTotal_of_ne nt
    obtain ⟨totalParameters, totalData, parametersAt, dataAt, _⟩ := h
    rw [limit] at totalParameters totalData parametersAt dataAt
    simp only [countWords, readCounts, if_neg nt, List.map_cons, List.map_nil,
      Encoder.concat_cons, Encoder.concat_nil, Encoder.append_assoc, Encoder.empty_append]
    refine .bind .u16 fun _ => .bind .u16 fun _ => .bind (.skip rfl) fun _ => .bind .u16 fun _ => ?_
    refine .bind .u16 fun _ => .bind .u16 fun _ => .bind .u16 fun _ => .bind .u16 fun _ => ?_
    refine .bind .u16 fun _ => .bind .u8 fun _ => .last (.skip rfl) ?_
    simp only [countsAt, toUInt32_ofNat_toNat totalParameters, toUInt32_ofNat_toNat totalData,
      toUInt32_ofNat_toNat parametersAt, toUInt32_ofNat_toNat dataAt, toUInt32_ofNat_shown nt,
      Kind.shown_of_small small.1, Kind.shown_of_small small.2]

/-- What all the parameter words at `start` say. -/
def announced (f : ResponseFrame) (start : Nat) : ResponseFrame :=
  (blank f.kind).withWords (f.countsAt start) f.setup

theorem setupCount_countsAt {f : ResponseFrame} (h : f.Expressible) (position : Nat) :
    f.setup.length = (f.countsAt position).setupCount.toNat := by
  have words := h.words
  have least : f.setup.length ≤ 255 := by
    unfold Kind.responseWordsLength at words
    split at words <;> omega
  exact (UInt8.toNat_ofNat_of_lt' (show _ < 256 by omega)).symm

theorem reads_words {f : ResponseFrame} (h : f.Expressible) (count : UInt8)
    (small : f.parameters.length ≤ 0xFFFF ∧ f.data.length ≤ 0xFFFF) :
    Reads limit start unicode f.words ((blank f.kind).readWords count) (f.announced start) := by
  refine .positioned (.bind (reads_counts h start small) fun _ => ?_)
  exact .last (.times (setupCount_countsAt h start) fun _ _ _ => .u16) rfl

/-- The frame as it comes out of a message in which its words start at `start`. -/
def returned (f : ResponseFrame) (start : Nat) : ResponseFrame :=
  { f.onWire with received := (f.announced start).received }

theorem onWire_returned (f : ResponseFrame) (start : Nat) : (f.returned start).onWire = f.onWire :=
  rfl

@[simp] theorem length_words (f : ResponseFrame) (start : Nat) (unicode : Bool) :
    (f.words.bytesAt start unicode).length = f.kind.responseWordsLength f.setup.length := by
  simp only [words, Encoder.bytesAt_positioned, Encoder.bytesAt_append, List.length_append,
    length_setup, Kind.responseWordsLength]
  cases kind : f.kind <;> simp [countWords, kind, Encoder.concat_cons, Encoder.concat_nil]

theorem bytes_eq (f : ResponseFrame) : f.bytes = payloads f.kind.alignment f.parameters f.data :=
  rfl

/-- Where a frame ends whose words start at `start`. -/
theorem length_bytes (f : ResponseFrame) (start : Nat) (unicode : Bool) :
    start + f.kind.responseWordsLength f.setup.length + 2 +
        (f.bytes.bytesAt (start + f.kind.responseWordsLength f.setup.length + 2) unicode).length =
      if f.data.length = 0 then (f.offsets start).parameters + f.parameters.length
      else (f.offsets start).data + f.data.length := by
  rw [bytes_eq, length_payloads]
  rfl

/-- Both payloads lie where the parameter words say. -/
theorem payloadAt_bytes (f : ResponseFrame) {before : Bytes} (after : Bytes) (position : Nat)
    {bytesStart : Nat}
    (here : bytesStart = start + f.kind.responseWordsLength f.setup.length + 2)
    (len : before.length = bytesStart)
    (fits : bytesStart + (f.bytes.bytesAt bytesStart unicode).length ≤ 0xFFFF)
    (bound : (before ++ f.bytes.bytesAt bytesStart unicode ++ after).length < Wire.memoryLimit) :
    let r : Reader := ⟨before ++ f.bytes.bytesAt bytesStart unicode ++ after, position, unicode⟩
    payloadAt r (f.announced start).received.parameters (f.announced start).parameters.length =
        .ok f.parameters.bytes ∧
      payloadAt r (f.announced start).received.data (f.announced start).data.length =
        .ok f.data.bytes := by
  subst here
  have small := small_of_fits fits
  have picked := payloadAt_payloads f.kind f.parameters f.data after position len fits bound
  have lengths : (f.announced start).parameters.length = f.parameters.length ∧
      (f.announced start).data.length = f.data.length :=
    ⟨UInt32.toNat_ofNat_of_lt' (show _ < 2 ^ 32 by omega),
      UInt32.toNat_ofNat_of_lt' (show _ < 2 ^ 32 by omega)⟩
  rw [lengths.1, lengths.2]
  simp only [announced, withWords, countsAt, Kind.toNat_ofNat_shown, offsets]
  exact picked

theorem yields_bytes (f : ResponseFrame) (count : Nat) {bytesStart : Nat}
    (here : bytesStart = start + f.kind.responseWordsLength f.setup.length + 2)
    (fits : bytesStart + (f.bytes.bytesAt bytesStart unicode).length ≤ 0xFFFF) :
    Yields bytesStart unicode f.bytes ((f.announced start).readBytes count) (f.returned start) := by
  intro before after len bound
  obtain ⟨parameters, data⟩ := f.payloadAt_bytes after bytesStart here len fits bound
  refine ⟨bytesStart, ?_⟩
  unfold readBytes
  rw [parameters, data]
  rfl

end ResponseFrame

namespace RequestFrame

structure Expressible (unicode : Bool) (f : RequestFrame) : Prop where
  totalParameterCount : f.totalParameterCount.toNat ≤ f.kind.maxTotal
  totalDataCount : f.totalDataCount.toNat ≤ f.kind.maxTotal
  maxParameterCount : f.secondary = false → f.maxParameterCount.toNat ≤ f.kind.maxTotal
  maxDataCount : f.secondary = false → f.maxDataCount.toNat ≤ f.kind.maxTotal
  parameterDisplacement : f.secondary = true → f.parameterDisplacement.toNat ≤ f.kind.maxTotal
  dataDisplacement : f.secondary = true → f.dataDisplacement.toNat ≤ f.kind.maxTotal
  words : f.wordsLength / 2 ≤ 255
  named : f.name.isSome ↔ f.kind = .transaction ∧ f.secondary = false
  name : ∀ name ∈ f.name, Text.Terminable unicode name

/-- The fields that a frame's family and its place in the sequence have. -/
def onWire (f : RequestFrame) : RequestFrame :=
  let shared := { blank f.kind f.secondary with
    totalParameterCount := f.totalParameterCount
    totalDataCount := f.totalDataCount
    parameters := .held f.parameters.bytes
    data := .held f.data.bytes }
  if f.secondary then
    { shared with
      parameterDisplacement := f.parameterDisplacement
      dataDisplacement := f.dataDisplacement
      fid := if f.kind = .transaction2 then f.fid else 0 }
  else
    { shared with
      maxParameterCount := f.maxParameterCount
      maxDataCount := f.maxDataCount
      maxSetupCount := f.maxSetupCount
      flags := if f.kind = .ntTransact then 0 else f.flags
      timeout := if f.kind = .ntTransact then 0 else f.timeout
      function := if f.kind = .ntTransact then f.function else 0
      setup := f.setup
      name := f.name }

/-- What the parameter words at `start` say. -/
def announced (f : RequestFrame) (start : Nat) (unicode : Bool) : RequestFrame :=
  { f.onWire with
    name := none
    parameters := .announced f.parameters.length
    data := .announced f.data.length
    received := ⟨f.kind.shown (f.offsets start unicode).parameters,
      f.kind.shown (f.offsets start unicode).data⟩ }

theorem setupCount {f : RequestFrame} (h : f.Expressible unicode) (primary : f.secondary = false) :
    f.setup.length = (UInt8.ofNat f.setup.length).toNat := by
  have words := h.words
  have least : f.setup.length ≤ 255 := by
    simp only [wordsLength, primary, Bool.false_eq_true, if_false, Kind.primaryWordsLength] at words
    split at words <;> omega
  exact (UInt8.toNat_ofNat_of_lt' (show _ < 256 by omega)).symm

theorem reads_primaryWords {f : RequestFrame} (h : f.Expressible unicode)
    (primary : f.secondary = false) (position : Nat)
    (small : f.parameters.length ≤ 0xFFFF ∧ f.data.length ≤ 0xFFFF) :
    Reads limit start unicode (f.primaryWords (f.offsets position unicode))
      (blank f.kind f.secondary).readPrimaryWords (f.announced position unicode) := by
  by_cases nt : f.kind = .ntTransact
  · have kind : (blank f.kind f.secondary).kind = .ntTransact := nt
    simp only [primaryWords, readPrimaryWords, if_pos nt, if_pos kind, Encoder.append_assoc]
    refine .bind .u8 fun _ => .bind (.skip rfl) fun _ => .bind .u32 fun _ => .bind .u32 fun _ => ?_
    refine .bind .u32 fun _ => .bind .u32 fun _ => .bind .u32 fun _ => .bind .u32 fun _ => ?_
    refine .bind .u32 fun _ => .bind .u32 fun _ => .bind .u8 fun _ => .bind .u16 fun _ => ?_
    refine .last (.times (setupCount h primary) fun _ _ _ => .u16) ?_
    simp only [announced, onWire, primary, nt, Bool.false_eq_true, if_false, if_true,
      toNat_ofNat_short small.1, toNat_ofNat_short small.2, toNat_ofNat_ntTransact, blank]
  · have kind : ¬(blank f.kind f.secondary).kind = .ntTransact := nt
    have limit := Kind.maxTotal_of_ne nt
    have totalParameters := limit ▸ h.totalParameterCount
    have totalData := limit ▸ h.totalDataCount
    have mostParameters := limit ▸ h.maxParameterCount primary
    have mostData := limit ▸ h.maxDataCount primary
    simp only [primaryWords, readPrimaryWords, if_neg nt, if_neg kind, Encoder.append_assoc]
    refine .bind .u16 fun _ => .bind .u16 fun _ => .bind .u16 fun _ => .bind .u16 fun _ => ?_
    refine .bind .u8 fun _ => .bind (.skip rfl) fun _ => .bind .u16 fun _ => .bind .u32 fun _ => ?_
    refine .bind (.skip rfl) fun _ => .bind .u16 fun _ => .bind .u16 fun _ => .bind .u16 fun _ => ?_
    refine .bind .u16 fun _ => .bind .u8 fun _ => .bind (.skip rfl) fun _ => ?_
    refine .last (.times (setupCount h primary) fun _ _ _ => .u16) ?_
    simp only [announced, onWire, primary, nt, Bool.false_eq_true, if_false, blank,
      toUInt32_toUInt16 totalParameters, toUInt32_toUInt16 totalData,
      toUInt32_toUInt16 mostParameters, toUInt32_toUInt16 mostData,
      toNat_ofNat16 nt, Kind.shown_of_small small.1, Kind.shown_of_small small.2]

theorem reads_count32 (n : Nat) :
    Reads limit start unicode (.u32 (UInt32.ofNat n)) (count .ntTransact)
      (UInt32.ofNat (Kind.ntTransact.shown n)) :=
  Reads.congr .u32 (ofNat_shown_ntTransact n).symm

theorem reads_count16 {k : Kind} (short : k ≠ .ntTransact) (n : Nat) :
    Reads limit start unicode (.u16 (UInt16.ofNat n)) (count k) (UInt32.ofNat (k.shown n)) := by
  simp only [count, if_neg short]
  exact Reads.congr (.map .u16) (toUInt32_ofNat_shown short n)

/-- What a continuing frame's words say, count by count. -/
theorem announced_secondary {f : RequestFrame} (h : f.Expressible unicode)
    (secondary : f.secondary = true) (position : Nat)
    (small : f.parameters.length ≤ 0xFFFF ∧ f.data.length ≤ 0xFFFF) :
    f.announced position unicode = { blank f.kind f.secondary with
      totalParameterCount := UInt32.ofNat (f.kind.shown f.totalParameterCount.toNat)
      totalDataCount := UInt32.ofNat (f.kind.shown f.totalDataCount.toNat)
      parameterDisplacement := UInt32.ofNat (f.kind.shown f.parameterDisplacement.toNat)
      dataDisplacement := UInt32.ofNat (f.kind.shown f.dataDisplacement.toNat)
      fid := if f.kind = .transaction2 then f.fid else 0
      parameters := .announced (UInt32.ofNat (f.kind.shown f.parameters.length)).toNat
      data := .announced (UInt32.ofNat (f.kind.shown f.data.length)).toNat
      received := ⟨(UInt32.ofNat (f.kind.shown (f.offsets position unicode).parameters)).toNat,
        (UInt32.ofNat (f.kind.shown (f.offsets position unicode).data)).toNat⟩ } := by
  have value (n : UInt32) (le : n.toNat ≤ f.kind.maxTotal) :
      UInt32.ofNat (f.kind.shown n.toNat) = n := by
    rw [Kind.shown_of_le le, UInt32.ofNat_toNat]
  simp only [value _ h.totalParameterCount, value _ h.totalDataCount,
    value _ (h.parameterDisplacement secondary), value _ (h.dataDisplacement secondary),
    Kind.toNat_ofNat_shown, Kind.shown_of_small small.1, Kind.shown_of_small small.2,
    toNat_ofNat_short small.1, toNat_ofNat_short small.2, announced, onWire, secondary, if_true,
    blank]

/-- The last byte of a continuing NT frame's words is not read. -/
theorem yields_secondaryWords {f : RequestFrame} (h : f.Expressible unicode)
    (secondary : f.secondary = true) (position : Nat)
    (small : f.parameters.length ≤ 0xFFFF ∧ f.data.length ≤ 0xFFFF) :
    Yields start unicode (f.secondaryWords (f.offsets position unicode))
      (blank f.kind f.secondary).readSecondaryWords (f.announced position unicode) := by
  rw [announced_secondary h secondary position small]
  have template (k : Kind) : (blank k f.secondary).kind = k := rfl
  cases kind : f.kind with
  | ntTransact =>
    simp only [secondaryWords, secondaryCounts, readSecondaryWords, template, kind, if_true,
      List.map_cons, List.map_nil, Encoder.concat_cons, Encoder.concat_nil, Encoder.append_empty]
    refine Reads.yields_append ?_
    refine .bind (.skip (by simp)) fun _ => .bind (reads_count32 _) fun _ => ?_
    refine .bind (reads_count32 _) fun _ => .bind (reads_count32 _) fun _ => ?_
    refine .bind (reads_count32 _) fun _ => .bind (reads_count32 _) fun _ => ?_
    refine .bind (reads_count32 _) fun _ => .bind (reads_count32 _) fun _ => ?_
    exact .last (reads_count32 _) rfl
  | transaction2 =>
    have field {start limit : Nat} (n : Nat) : Reads limit start unicode (.u16 (UInt16.ofNat n))
        (count .transaction2) (UInt32.ofNat (Kind.transaction2.shown n)) :=
      reads_count16 (by decide) n
    simp only [secondaryWords, secondaryCounts, readSecondaryWords, template, kind, reduceCtorEq,
      if_false, if_true, List.map_cons, List.map_nil, Encoder.concat_cons, Encoder.concat_nil,
      Encoder.append_empty, Encoder.append_assoc]
    refine Reads.yields (.bind (field _) fun _ => .bind (field _) fun _ => ?_)
    refine .bind (field _) fun _ => .bind (field _) fun _ => .bind (field _) fun _ => ?_
    refine .bind (field _) fun _ => .bind (field _) fun _ => .bind (field _) fun _ => ?_
    exact .last .u16 rfl
  | transaction =>
    have field {start limit : Nat} (n : Nat) : Reads limit start unicode (.u16 (UInt16.ofNat n))
        (count .transaction) (UInt32.ofNat (Kind.transaction.shown n)) :=
      reads_count16 (by decide) n
    simp only [secondaryWords, secondaryCounts, readSecondaryWords, template, kind, reduceCtorEq,
      if_false, List.map_cons, List.map_nil, Encoder.concat_cons, Encoder.concat_nil,
      Encoder.append_empty, pure_bind]
    refine Reads.yields (.bind (field _) fun _ => .bind (field _) fun _ => ?_)
    refine .bind (field _) fun _ => .bind (field _) fun _ => .bind (field _) fun _ => ?_
    refine .bind (field _) fun _ => .bind (field _) fun _ => .last (field _) ?_
    rfl

theorem yields_words {f : RequestFrame} (h : f.Expressible unicode) (count : UInt8)
    (small : f.parameters.length ≤ 0xFFFF ∧ f.data.length ≤ 0xFFFF) :
    Yields start unicode f.words ((blank f.kind f.secondary).readWords count)
      (f.announced start unicode) := by
  have template : (blank f.kind f.secondary).secondary = f.secondary := rfl
  intro before after len bound
  simp only [words, Encoder.bytesAt_positioned, readWords, template] at bound ⊢
  by_cases secondary : f.secondary = true
  · simp only [if_pos secondary] at bound ⊢
    exact yields_secondaryWords h secondary start small before after len bound
  · have primary : f.secondary = false := by simpa using secondary
    simp only [if_neg secondary] at bound ⊢
    exact (reads_primaryWords h primary start small).yields before after len bound

@[simp] theorem length_words (f : RequestFrame) (start : Nat) (unicode : Bool) :
    (f.words.bytesAt start unicode).length = f.wordsLength := by
  simp only [words, Encoder.bytesAt_positioned, wordsLength]
  by_cases secondary : f.secondary = true
  · simp only [if_pos secondary, secondaryWords, secondaryCounts, Kind.secondaryWordsLength]
    cases f.kind <;> simp [Encoder.concat_cons, Encoder.concat_nil]
  · simp only [if_neg secondary, primaryWords, Encoder.bytesAt_append, List.length_append,
      length_setup, Kind.primaryWordsLength]
    cases kind : f.kind <;> simp

def nameBytes (f : RequestFrame) : Encoder :=
  match f.name with
  | some name => .string name
  | none => ∅

theorem bytes_eq (f : RequestFrame) :
    f.bytes = f.nameBytes ++ payloads f.kind.alignment f.parameters f.data := by
  simp only [bytes, payloads, aligned, ← Encoder.append_assoc]
  rfl

/-- Where the name of a frame ends whose words start at `start`. -/
def payloadsStart (f : RequestFrame) (start : Nat) (unicode : Bool) : Nat :=
  start + f.wordsLength + 2 +
    (f.nameBytes.bytesAt (start + f.wordsLength + 2) unicode).length

theorem offsets_eq (f : RequestFrame) (start : Nat) (unicode : Bool) :
    f.offsets start unicode = ⟨f.kind.alignment.up (f.payloadsStart start unicode),
      dataStart f.kind.alignment (f.payloadsStart start unicode) f.parameters⟩ := by
  cases name : f.name with
  | none => simp only [offsets, payloadsStart, nameBytes, name, dataStart, Encoder.bytesAt_none,
      List.length_nil]
  | some text => simp only [offsets, payloadsStart, nameBytes, name, dataStart,
      Encoder.length_bytesAt_string]

/-- Where a frame ends whose words start at `start`. -/
theorem length_bytes (f : RequestFrame) (start : Nat) (unicode : Bool) :
    start + f.wordsLength + 2 + (f.bytes.bytesAt (start + f.wordsLength + 2) unicode).length =
      if f.data.length = 0 then (f.offsets start unicode).parameters + f.parameters.length
      else (f.offsets start unicode).data + f.data.length := by
  rw [bytes_eq, Encoder.bytesAt_append, List.length_append, ← Nat.add_assoc, length_payloads,
    offsets_eq]
  rfl

/-- The frame as it comes out of a message in which its words start at `start`. -/
def returned (f : RequestFrame) (start : Nat) (unicode : Bool) : RequestFrame :=
  { f.onWire with received := (f.announced start unicode).received }

theorem onWire_returned (f : RequestFrame) (start : Nat) (unicode : Bool) :
    (f.returned start unicode).onWire = f.onWire := by
  unfold returned onWire
  by_cases secondary : f.secondary = true
  · simp only [if_pos secondary, blank]
    cases kind : f.kind <;> simp [secondary]
  · simp only [if_neg secondary, blank]
    cases kind : f.kind <;> simp [secondary]

theorem small_of_bytes_fit {f : RequestFrame}
    (fits : start + (f.bytes.bytesAt start unicode).length ≤ 0xFFFF) :
    f.parameters.length ≤ 0xFFFF ∧ f.data.length ≤ 0xFFFF := by
  rw [bytes_eq, Encoder.bytesAt_append, List.length_append, ← Nat.add_assoc] at fits
  exact small_of_fits fits

/-- What a frame's words say of the payloads behind its name. -/
structure Announces (t f : RequestFrame) (start : Nat) : Prop where
  kind : t.kind = f.kind
  secondary : t.secondary = f.secondary
  name : t.name = none
  parameters : t.parameters.length = f.parameters.length
  data : t.data.length = f.data.length
  received : t.received = ⟨f.kind.shown (f.kind.alignment.up start),
    f.kind.shown (dataStart f.kind.alignment start f.parameters)⟩

theorem announces_announced (f : RequestFrame) (start : Nat) (unicode : Bool) :
    (f.announced start unicode).Announces f (f.payloadsStart start unicode) where
  kind := by unfold announced onWire; split <;> rfl
  secondary := by unfold announced onWire; split <;> rfl
  name := rfl
  parameters := rfl
  data := rfl
  received := by simp only [announced, f.offsets_eq]

theorem yields_payloads {f t : RequestFrame} {name : Option String} (told : t.Announces f start)
    (fits : start + ((payloads f.kind.alignment f.parameters f.data).bytesAt start unicode).length ≤
      0xFFFF) :
    Yields start unicode (payloads f.kind.alignment f.parameters f.data)
      (fun r => do
        let parameters ← payloadAt r t.received.parameters t.parameters.length
        let data ← payloadAt r t.received.data t.data.length
        .ok ({ t with name, parameters := .held parameters, data := .held data }, r))
      { t with name, parameters := .held f.parameters.bytes, data := .held f.data.bytes } := by
  intro before after len bound
  obtain ⟨parameters, data⟩ := payloadAt_payloads f.kind f.parameters f.data after start len fits
    bound
  refine ⟨start, ?_⟩
  simp only [told.received, told.parameters, told.data]
  rw [parameters, data]
  rfl

/-- The name is read in order, the payloads where the words put them. -/
theorem yields_named {f t : RequestFrame} (h : f.Expressible unicode)
    (told : t.Announces f (start + (f.nameBytes.bytesAt start unicode).length))
    (fits : start + (f.bytes.bytesAt start unicode).length ≤ 0xFFFF) :
    Yields start unicode f.bytes (t.readBytes (f.bytes.bytesAt start unicode).length)
      { t with
        name := f.name, parameters := .held f.parameters.bytes, data := .held f.data.bytes } := by
  have tail : start + (f.nameBytes.bytesAt start unicode).length +
      ((payloads f.kind.alignment f.parameters f.data).bytesAt
        (start + (f.nameBytes.bytesAt start unicode).length) unicode).length ≤ 0xFFFF := by
    rw [bytes_eq, Encoder.bytesAt_append, List.length_append] at fits
    omega
  by_cases named : f.kind = .transaction ∧ f.secondary = false
  · obtain ⟨name, isName⟩ := Option.isSome_iff_exists.mp (h.named.mpr named)
    have test : (t.kind = .transaction && !t.secondary) = true := by
      simp [told.kind, told.secondary, named]
    have bytes : f.nameBytes = .string name := by simp only [nameBytes, isName]
    have text := h.name name isName
    simp only [readBytes, test, if_true]
    refine .ahead rfl ?_
    rw [bytes_eq]
    rw [bytes] at told tail ⊢
    rw [isName]
    exact .bind (.map (.string text)) (yields_payloads told tail)
  · have test : (t.kind = .transaction && !t.secondary) = false := by
      simpa [told.kind, told.secondary] using named
    have unnamed : f.name = none := by simpa using mt h.named.mp named
    have bytes : f.nameBytes = ∅ := by simp only [nameBytes, unnamed]
    have none : t.name = f.name := by rw [told.name, unnamed]
    simp only [readBytes, test, Bool.false_eq_true, if_false, none, pure_bind]
    rw [bytes_eq]
    rw [bytes] at told tail ⊢
    rw [Encoder.empty_append]
    exact yields_payloads told tail

theorem yields_bytes {f : RequestFrame} (h : f.Expressible unicode) {bytesStart : Nat}
    (here : bytesStart = start + f.wordsLength + 2)
    (fits : bytesStart + (f.bytes.bytesAt bytesStart unicode).length ≤ 0xFFFF) :
    Yields bytesStart unicode f.bytes
      ((f.announced start unicode).readBytes (f.bytes.bytesAt bytesStart unicode).length)
      (f.returned start unicode) := by
  subst here
  refine (yields_named h (f.announces_announced start unicode) fits).congr ?_
  unfold returned announced onWire
  split
  next secondary =>
    have unnamed : f.name = none := by simpa [secondary] using mt h.named.mp
    simp only [unnamed, blank]
  next => rfl

end RequestFrame

end Smb1.Transaction
