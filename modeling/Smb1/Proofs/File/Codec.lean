import Smb1.File.Close
import Smb1.File.Create
import Smb1.File.Read
import Smb1.File.Write
import Smb1.Proofs.Wire.Fields
import Smb1.Proofs.Wire.Text

/-! File bodies read back what they wrote. `onWire` is a body without the fields that its link does
not show; `Expressible` says which values the fields of a link can show. -/
namespace Smb1

open Wire

variable {limit start : Nat} {unicode : Bool}

namespace CloseRequest

theorem reads_words (b t : CloseRequest) (count : UInt8) :
    Reads limit start unicode b.words (t.readWords count) b := by
  refine .bind .u16 fun _ => ?_
  exact .last .u32 rfl

end CloseRequest

namespace CheckDirectoryRequest

def Expressible (unicode : Bool) (b : CheckDirectoryRequest) : Prop :=
  Text.Terminable unicode b.directoryName

theorem reads_bytes {b : CheckDirectoryRequest} (h : b.Expressible unicode)
    (t : CheckDirectoryRequest) :
    Reads limit start unicode b.bytes
      (t.readBytes (b.bytes.bytesAt start unicode).length) b := by
  refine .ahead rfl (.bind .u8 fun _ => ?_)
  simp only [ne_eq, not_true_eq_false, if_false]
  exact .last (.string h) rfl

end CheckDirectoryRequest

namespace CreateRequest

structure Expressible (unicode : Bool) (b : CreateRequest) : Prop where
  flags : b.flags.Defined
  shareAccess : b.shareAccess.Defined
  fileName : Text.Terminable unicode b.fileName

theorem reads_words {b : CreateRequest} (h : b.Expressible unicode) (t : CreateRequest)
    (count : UInt8) :
    Reads limit start unicode b.words (t.readWords count) { b with fileName := t.fileName } := by
  refine .positioned ?_
  simp only [Encoder.append_assoc]
  refine .bind (.skip rfl) fun _ => .bind .u16 fun _ => .bind .u32 fun _ => .bind .u32 fun _ => ?_
  refine .bind .u32 fun _ => .bind .u64 fun _ => .bind .u32 fun _ => .bind .u32 fun _ => ?_
  refine .bind .u32 fun _ => .bind .u32 fun _ => .bind .u32 fun _ => .last .u8 ?_
  simp only [Flags.ofBits_bits h.flags, Flags.ofBits_bits h.shareAccess,
    CreateDisposition.ofCode_code, ImpersonationLevel.ofCode_code]

theorem reads_bytes {b : CreateRequest} (h : b.Expressible unicode) (name : String) :
    Reads limit start unicode b.bytes
      ({ b with fileName := name : CreateRequest }.readBytes
        (b.bytes.bytesAt start unicode).length) b :=
  .ahead rfl (.last (.string h.fileName) rfl)

end CreateRequest

namespace CreateResponse

structure Expressible (b : CreateResponse) : Prop where
  creationTime : Time.Shown b.creationTime
  lastAccessTime : Time.Shown b.lastAccessTime
  lastWriteTime : Time.Shown b.lastWriteTime
  changeTime : Time.Shown b.changeTime

/-- Only the extended form has identifiers and rights. -/
def onWire (b : CreateResponse) : CreateResponse :=
  if b.extended then b
  else { b with
    volumeGuid := Octets.zero 16, fileId := 0, maximalAccessRights := 0
    guestMaximalAccessRights := 0 }

theorem onWire_onWire (b : CreateResponse) : b.onWire.onWire = b.onWire := by
  cases extended : b.extended <;> simp [onWire, extended]

theorem reads_words {b : CreateResponse} (h : b.Expressible) {count : UInt8}
    (whole : b.extended → extendedWordCount ≤ count) :
    Reads limit start unicode b.words
      ({ blank with extended := b.extended : CreateResponse }.readWords count) b.onWire := by
  have directory : ((if b.directory then 1 else 0 : UInt8) != 0) = b.directory := by
    cases b.directory <;> rfl
  simp only [words, Encoder.append_assoc]
  refine .bind .u8 fun _ => .bind .u16 fun _ => .bind .u32 fun _ => ?_
  refine .bind (.fileTime h.creationTime) fun _ => .bind (.fileTime h.lastAccessTime) fun _ => ?_
  refine .bind (.fileTime h.lastWriteTime) fun _ => .bind (.fileTime h.changeTime) fun _ => ?_
  refine .bind .u32 fun _ => .bind .u64 fun _ => .bind .u64 fun _ => .bind .u16 fun _ => ?_
  refine .bind .u16 fun _ => .bind .u8 fun _ => ?_
  simp only [Time.ofFileTime_ticks h.creationTime, Time.ofFileTime_ticks h.lastAccessTime,
    Time.ofFileTime_ticks h.lastWriteTime, Time.ofFileTime_ticks h.changeTime, directory, onWire]
  cases extended : b.extended with
  | false =>
    simp only [Bool.false_and, Bool.false_eq_true, if_false]
    exact .pure
  | true =>
    simp only [whole extended, decide_true, Bool.and_self, if_true]
    refine .bind (.octets b.volumeGuid) fun _ => .bind .u64 fun _ => .bind .u32 fun _ => ?_
    exact .last .u32 (by simp only [← extended])

end CreateResponse

namespace ReadRequest

theorem reads_words (b t : ReadRequest) {count : UInt8} (whole : 12 ≤ count) :
    Reads limit start unicode b.words (t.readWords count) b := by
  have high : b.maxCount >>> 16 ≠ 0xFFFFFFFF := by
    intro endless
    have lt := b.maxCount.toNat_lt
    have value := congrArg UInt32.toNat endless
    rw [toNat_high32] at value
    simp at value
    omega
  simp only [words, Encoder.append_assoc, readWords, whole, if_true]
  refine .bind .u16 fun _ => .bind .u32 fun _ => .bind .u16 fun _ => .bind .u16 fun _ => ?_
  refine .bind .u32 fun _ => .bind .u16 fun _ => .last .u32 ?_
  simp only [high, if_false, joined_offset, joined_count]

end ReadRequest

namespace ReadResponse

/-- Where the data lies and whether it was detached is no part of what is sent, and neither is a
length beside that of the data. -/
def onWire (b : ReadResponse) : ReadResponse :=
  { b with dataLength := 0, dataOffset := 0, detached := false }

/-- What the parameter words at `start` say. -/
def announced (b : ReadResponse) (start : Nat) : ReadResponse :=
  { blank with
    available := b.available
    dataCompactionMode := b.dataCompactionMode
    dataLength := (UInt16.ofNat (b.data.length / 0x10000)).toUInt32 <<< 16 |||
      (UInt16.ofNat b.data.length).toUInt32
    dataOffset := UInt16.ofNat (Alignment.two.up (start + 20 + 2)) }

theorem reads_words (b : ReadResponse) (count : UInt8) :
    Reads limit start unicode b.words (blank.readWords count) (b.announced start) := by
  refine .positioned ?_
  simp only [Encoder.append_assoc]
  refine .bind .u16 fun _ => .bind .u16 fun _ => .bind (.skip rfl) fun _ => .bind .u16 fun _ => ?_
  exact .bind .u16 fun _ => .bind .u16 fun _ => .last (.skip (by simp)) rfl

theorem yields_bytes (b : ReadResponse) (count : Nat)
    (fits : start + 20 + 2 + (b.bytes.bytesAt (start + 20 + 2) unicode).length ≤ 0xFFFF) :
    Yields (start + 20 + 2) unicode b.bytes ((b.announced start).readBytes count)
      { b.announced start with data := b.data } := by
  intro before after len bound
  have picked := slice_aligned .two b.data after unicode (start + 20 + 2) len bound
  have stop := length_aligned .two b.data (start + 20 + 2) unicode
  rw [bytes, ← aligned] at fits ⊢
  have offset : (b.announced start).dataOffset.toNat = Alignment.two.up (start + 20 + 2) :=
    UInt16.toNat_ofNat_of_lt' (show _ < 0x10000 by omega)
  have length : (b.announced start).dataLength.toNat = b.data.length :=
    toNat_joined_length (by omega)
  simp only [readBytes, show (b.announced start).detached = false from rfl, Bool.false_eq_true,
    if_false, offset, length]
  rw [picked]
  exact ⟨_, rfl⟩

end ReadResponse

namespace WriteRequest

/-- Where the data lies is no part of what is sent. -/
def onWire (b : WriteRequest) : WriteRequest :=
  { b with data := .held b.data.bytes, dataOffset := 0 }

/-- What the parameter words at `start` say. -/
def announced (b : WriteRequest) (start : Nat) : WriteRequest :=
  { b with
    data := .announced b.data.length
    dataOffset := UInt16.ofNat (Alignment.four.up (start + 24 + 2)) }

/-- What fits into a message has a length that its words can show. -/
theorem short_of_fits {b : WriteRequest} {bytesStart : Nat}
    (fits : bytesStart + (b.bytes.bytesAt bytesStart unicode).length ≤ 0xFFFF) :
    b.data.length < 0x100000000 := by
  have stop := length_aligned .four b.data.bytes bytesStart unicode
  rw [bytes, ← aligned, stop, Payload.length_bytes] at fits
  omega

theorem reads_words {b : WriteRequest} (small : b.data.length < 0x100000000) (t : WriteRequest)
    {count : UInt8} (whole : 14 ≤ count) :
    Reads limit start unicode b.words (t.readWords count) (b.announced start) := by
  have length : (UInt16.ofNat (b.data.length / 0x10000)).toNat * 0x10000 +
      (UInt16.ofNat b.data.length).toNat = b.data.length := by
    simp only [UInt16.toNat_ofNat']
    omega
  refine .positioned ?_
  simp only [Encoder.append_assoc, readWords, whole, if_true]
  refine .bind .u16 fun _ => .bind .u32 fun _ => .bind (.skip rfl) fun _ => .bind .u16 fun _ => ?_
  refine .bind .u16 fun _ => .bind .u16 fun _ => .bind .u16 fun _ => .bind .u16 fun _ => ?_
  exact .last .u32 (by simp only [joined_offset, length, announced])

theorem yields_bytes (b : WriteRequest) (count : Nat)
    (fits : start + 24 + 2 + (b.bytes.bytesAt (start + 24 + 2) unicode).length ≤ 0xFFFF) :
    Yields (start + 24 + 2) unicode b.bytes ((b.announced start).readBytes count)
      { b.announced start with data := .held b.data.bytes } := by
  intro before after len bound
  have picked := slice_aligned .four b.data.bytes after unicode (start + 24 + 2) len bound
  have stop := length_aligned .four b.data.bytes (start + 24 + 2) unicode
  rw [bytes, ← aligned] at fits ⊢
  have offset : (b.announced start).dataOffset.toNat = Alignment.four.up (start + 24 + 2) :=
    UInt16.toNat_ofNat_of_lt' (show _ < 0x10000 by omega)
  have length : (b.announced start).data.length = b.data.bytes.length := by
    rw [Payload.length_bytes]
    rfl
  simp only [readBytes, offset, length]
  rw [picked]
  exact ⟨_, rfl⟩

end WriteRequest

namespace WriteResponse

theorem reads_words (b t : WriteResponse) (count : UInt8) :
    Reads limit start unicode b.words (t.readWords count) b := by
  simp only [words, Encoder.append_assoc]
  refine .bind .u16 fun _ => .bind .u16 fun _ => .bind .u16 fun _ => ?_
  exact .last (.skip rfl) (by simp only [joined_words])

end WriteResponse

end Smb1
