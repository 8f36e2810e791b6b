import Smb1.Proofs.Message.Extends
import Smb1.Proofs.Transport.Split
import Smb1.Proofs.Wire.Fields

/-! A read response reads the same with its data cut off, if the data is put into the template
before. -/
namespace Smb1

open Wire

theorem Word.decode_append {W : Type} [Word W] {bytes : Bytes} (enough : Word.size W ≤ bytes.length)
    (tail : Bytes) : (Word.decode (bytes ++ tail) : W) = Word.decode bytes := by
  rw [Word.decode, Word.decode, List.take_append_of_le_length enough]

namespace Header

theorem spans_named (code : UInt8) (header : Command → Header) :
    Spans 0 (match Command.ofCode? code with
      | none => Decoder.fail (.parse (.unknownCommand code))
      | some command => pure (header command)) := by
  cases Command.ofCode? code with
  | none => exact .fail
  | some command => exact .pure

theorem spans_fields : Spans length fields := by
  have whole : Spans _ fields :=
    .bind .take fun _ => .ite .refused <|
    .bind .u8 fun code => .bind .u32 fun _ => .bind .u8 fun _ => .bind .u16 fun _ =>
    .bind .u16 fun _ => .bind .octets fun _ => .bind .skip fun _ => .bind .u16 fun _ =>
    .bind .u16 fun _ => .bind .u16 fun _ => .bind .u16 fun _ => spans_named code _
  exact whole

/-- What a header says stands in its own bytes. -/
theorem fst_decode_append {input : Bytes} (long : length ≤ input.length) (tail : Bytes) :
    Prod.fst <$> decode (input ++ tail) = Prod.fst <$> decode input := by
  have begins : Reader.start (input ++ tail) false =
      (Reader.start input false).extended tail := rfl
  have same := spans_fields.same (r := .start input false)
    (by show 0 + length ≤ input.length; omega) tail
  simp only [decode, if_neg (Nat.not_lt.mpr long), begins, same]
  rw [if_neg (by rw [List.length_append]; omega)]
  cases fields (Reader.start input false) <;> rfl

end Header

namespace ReadResponse

variable {front : Bytes} {start : Nat} {unicode : Bool}

/-- A response to which the words of a frame were read. -/
def told (x : ReadResponse) (front : Bytes) : ReadResponse :=
  { x with
    available := Word.decode (front.drop 37)
    dataCompactionMode := Word.decode (front.drop 39)
    dataOffset := Word.decode (front.drop dataOffsetOffset)
    dataLength := ((Word.decode (front.drop dataLengthHighOffset) : UInt16).toUInt32 <<< 16) |||
      (Word.decode (front.drop dataLengthOffset) : UInt16).toUInt32 }

theorem spans_readWords (x : ReadResponse) (wordCount : UInt8) :
    Spans 20 (x.readWords wordCount) := by
  have whole : Spans _ (x.readWords wordCount) :=
    .bind .u16 fun _ => .bind .u16 fun _ => .bind .skip fun _ => .bind .u16 fun _ =>
    .bind .u16 fun _ => .bind .u16 fun _ => .bind .skip fun _ => .pure
  exact whole

theorem readWords_told (x : ReadResponse) (wordCount : UInt8) (long : headLength ≤ front.length) :
    x.readWords wordCount ⟨front, 37, unicode⟩ =
      .ok (x.told front, ⟨front, 57, unicode⟩) := by
  unfold headLength at long
  have word (position : Nat) (inside : position < 57) : Decoder.u16 ⟨front, position, unicode⟩ =
      .ok (Word.decode (front.drop position), ⟨front, position + 2, unicode⟩) :=
    Decoder.word_eq_ok (show position + 2 ≤ front.length by omega)
  have skip (position count : Nat) (inside : position + count ≤ 57) :
      Decoder.skip count ⟨front, position, unicode⟩ =
        .ok ((), ⟨front, position + count, unicode⟩) :=
    Decoder.skip_eq_ok (Nat.lt_of_le_of_lt inside (by decide))
  rw [readWords, Decoder.bind_of_ok _ (word 37 (by decide)),
    Decoder.bind_of_ok _ (word 39 (by decide)), Decoder.bind_of_ok _ (skip 41 2 (by decide)),
    Decoder.bind_of_ok _ (word 43 (by decide)), Decoder.bind_of_ok _ (word 45 (by decide)),
    Decoder.bind_of_ok _ (word 47 (by decide)), Decoder.bind_of_ok _ (skip 49 8 (by decide))]
  rfl

theorem readWords_front (x : ReadResponse) (wordCount : UInt8) (long : headLength ≤ front.length)
    (tail : Bytes) (unicode : Bool) :
    (Body.readResponse x).readWords wordCount ⟨front ++ tail, 37, unicode⟩ =
      (.readResponse (x.told front), .ok ⟨front ++ tail, 57, unicode⟩) := by
  have told : x.readWords wordCount ⟨front, 37, unicode⟩ = _ := x.readWords_told wordCount long
  have read := (x.spans_readWords wordCount).front (Nat.le_trans (by decide) long) told tail
  rw [Body.readWords, Body.fill, read]

theorem detached_of_readWords {x : ReadResponse} {count : UInt8} {r : Reader}
    {got : ReadResponse × Reader} (read : x.readWords count r = .ok got) :
    got.1.detached = x.detached := by
  obtain ⟨y, r'⟩ := got
  iterate 7 obtain ⟨_, _, -, read⟩ := Decoder.bind_eq_ok read
  cases read
  rfl

theorem detached_of_readBytes {x : ReadResponse} {count : Nat} {r : Reader}
    {got : ReadResponse × Reader} (read : x.readBytes count r = .ok got) :
    got.1.detached = x.detached := by
  unfold readBytes at read
  split at read
  · cases read
    rfl
  · split at read <;> cases read
    rfl

variable {offset count room length : Nat}

/-- Data that ends the message is found where the words say. -/
theorem readBytes_told (fits : Netbios.Fits front length room offset count) {buffer : Bytes}
    (whole : buffer.length = length) {x : ReadResponse} (attached : x.detached = false)
    (byteCount position : Nat) :
    (x.told front).readBytes byteCount ⟨buffer, position, unicode⟩ =
      .ok ({ x.told front with data := buffer.drop offset }, ⟨buffer, position, unicode⟩) := by
  have dataOffset : (x.told front).dataOffset.toNat = offset := fits.starts.symm
  have dataLength : (x.told front).dataLength.toNat = count := by
    rw [fits.counts, Nat.add_comm]
    exact toNat_joined16 _ _
  have ends : offset + count = buffer.length := by rw [fits.ends, whole]
  have picked : (⟨buffer, position, unicode⟩ : Reader).slice offset count =
      .ok (buffer.drop offset) := by
    have inside : ¬(⟨buffer, position, unicode⟩ : Reader).length < offset + count :=
      Nat.not_lt.mpr (Nat.le_of_eq ends)
    have all : (buffer.drop offset).length ≤ count := by
      rw [List.length_drop]
      omega
    rw [Reader.slice, if_neg (Nat.not_le.mpr fits.lt_limit), if_neg inside]
    exact congrArg Except.ok (List.take_of_length_le all)
  have here : ¬(x.told front).detached = true := Bool.eq_false_iff.mp attached
  rw [readBytes, if_neg here, dataOffset, dataLength, picked]

end ReadResponse

namespace Chain

variable {front : Bytes} {unicode : Bool}

theorem spans_readBlock : Spans 4 readBlock := by
  have whole : Spans _ readBlock :=
    .bind .u8 fun _ => .bind .skip fun _ => .bind .u16 fun _ => .pure
  exact whole

/-- The first link of a read response is read up to its data from the bytes before that. -/
theorem readLink_front (long : ReadResponse.headLength ≤ front.length)
    (words : front[Header.length]? = some ReadResponse.wordCount) (unicode : Bool) :
    ∃ successor, ∀ (x : ReadResponse) (tail : Bytes),
      readLink (.readResponse x) ⟨front ++ tail, Header.length, unicode⟩ =
        match (x.told front).readBytes (Word.decode (front.drop 57) : UInt16).toNat
          ⟨front ++ tail, ReadResponse.headLength, unicode⟩ with
        | .ok (y, r) => (.readResponse y, .ok (successor, r.seek (ReadResponse.headLength +
            (Word.decode (front.drop 57) : UInt16).toNat)))
        | .error e => (.readResponse (x.told front), .error e) := by
  have byte (position : Nat) (inside : position + 1 ≤ 59) :
      Decoder.u8 ⟨front, position, unicode⟩ =
        .ok (Word.decode (front.drop position), ⟨front, position + 1, unicode⟩) :=
    Decoder.word_eq_ok (Nat.le_trans inside long)
  have word (position : Nat) (inside : position + 2 ≤ 59) :
      Decoder.u16 ⟨front, position, unicode⟩ =
        .ok (Word.decode (front.drop position), ⟨front, position + 2, unicode⟩) :=
    Decoder.word_eq_ok (Nat.le_trans inside long)
  have skipped : Decoder.skip 1 ⟨front, 34, unicode⟩ = .ok ((), ⟨front, 35, unicode⟩) :=
    Decoder.skip_eq_ok (show 34 + 1 < Position.limit by decide)
  have twelve : (Word.decode (front.drop 32) : UInt8) = 12 := by
    obtain ⟨inside, here⟩ := List.getElem?_eq_some_iff.mp words
    rw [show (32 : Nat) = Header.length from rfl, List.drop_eq_getElem_cons inside, here]
    exact (congrArg Word.decode (congrArg (· ++ _) (encode_u8 12).symm)).trans
      (Word.decode_encode_append 12 _)
  obtain ⟨successor, block⟩ : ∃ successor,
      readBlock ⟨front, 33, unicode⟩ = .ok (successor, ⟨front, 37, unicode⟩) := by
    rw [readBlock, Decoder.bind_of_ok _ (byte 33 (by decide)), Decoder.bind_of_ok _ skipped,
      Decoder.bind_of_ok _ (word 35 (by decide))]
    exact ⟨_, rfl⟩
  refine ⟨successor, fun x tail => ?_⟩
  have count := Spans.u8.front (Nat.le_trans (by decide) long) (byte 32 (by decide)) tail
  have blockRead := spans_readBlock.front (Nat.le_trans (by decide) long) block tail
  have head : readLinkHead (.readResponse x) ⟨front ++ tail, Header.length, unicode⟩ =
      .ok ((12, successor), ⟨front ++ tail, 37, unicode⟩) := by
    rw [readLinkHead, Header.length, Decoder.bind_of_ok _ count, twelve]
    exact Decoder.bind_of_ok _ blockRead
  have words : readLinkWords (.readResponse x) Header.length 12 ⟨front ++ tail, 37, unicode⟩ =
      (.readResponse (x.told front), .ok ⟨front ++ tail, 57, unicode⟩) := by
    have filled : readLinkWords (.readResponse x) Header.length 12 ⟨front ++ tail, 37, unicode⟩ =
        (((Body.readResponse x).readWords 12 ⟨front ++ tail, 37, unicode⟩).1,
          ((Body.readResponse x).readWords 12 ⟨front ++ tail, 37, unicode⟩).2 >>=
            (·.seekFrom Header.length 25)) := rfl
    have moved : (⟨front ++ tail, 57, unicode⟩ : Reader).seekFrom Header.length 25 =
        .ok ⟨front ++ tail, 57, unicode⟩ := Reader.seekFrom_eq_ok_iff.mpr ⟨rfl, by decide⟩
    rw [filled, x.readWords_front 12 long]
    exact congrArg _ moved
  have bytes := Spans.u16.front (Nat.le_trans (by decide) long) (word 57 (by decide)) tail
  have near (r : Reader) (count : UInt16) :
      r.seekFrom ReadResponse.headLength count.toNat =
        .ok (r.seek (ReadResponse.headLength + count.toNat)) :=
    Reader.seekFrom_eq_ok_iff.mpr ⟨rfl, Nat.lt_trans
      (Nat.add_lt_add_left count.toNat_lt ReadResponse.headLength) (by decide)⟩
  unfold readLink
  simp only [head, words]
  simp only [readLinkBytes, bytes, if_pos (Or.inl (show (12 : UInt8) ≠ 0 by decide)),
    Body.readBytes, Body.fill]
  rw [show 57 + 2 = ReadResponse.headLength from rfl]
  rcases (x.told front).readBytes _ _ with ⟨e⟩ | ⟨y, r⟩
  · rfl
  · exact congrArg (_, Except.map _ ·) (near r _)

/-- Where its data comes from is no part of what is read of a link. -/
theorem readLink_readResponse {x : ReadResponse} {c : Body} {successor : Option Successor}
    {r r' : Reader} (link : readLink (.readResponse x) r = (c, .ok (successor, r'))) :
    ∃ y : ReadResponse, c = .readResponse y ∧ y.detached = x.detached := by
  have words (start : Nat) (count : UInt8) (r : Reader) : ∃ y : ReadResponse,
      (readLinkWords (.readResponse x) start count r).1 = .readResponse y ∧
        y.detached = x.detached := by
    have either (p : Prop) [Decidable p] (wordCount : UInt8) : ∃ y : ReadResponse,
        (if p then (Body.readResponse x).readWords wordCount r else
          (.readResponse x, .ok r)).1 = .readResponse y ∧ y.detached = x.detached := by
      split
      · rw [Body.readWords, Body.fill]
        cases read : x.readWords wordCount r with
        | error e => exact ⟨x, rfl, rfl⟩
        | ok got => exact ⟨got.1, rfl, ReadResponse.detached_of_readWords read⟩
      · exact ⟨x, rfl, rfl⟩
    exact either _ _
  have bytes (y : ReadResponse) (count : UInt8) (r : Reader) : ∃ z : ReadResponse,
      (readLinkBytes (.readResponse y) count r).1 = .readResponse z ∧
        z.detached = y.detached := by
    unfold readLinkBytes
    split
    · exact ⟨y, rfl, rfl⟩
    next byteCount r _ =>
    dsimp only
    split
    · rw [Body.readBytes, Body.fill]
      cases read : y.readBytes byteCount.toNat r with
      | error e => exact ⟨y, rfl, rfl⟩
      | ok got => exact ⟨got.1, rfl, ReadResponse.detached_of_readBytes read⟩
    · exact ⟨y, rfl, rfl⟩
  unfold readLink at link
  split at link
  · cases link
  next rawCount _ afterHead _ =>
  obtain ⟨y, isRead, kept⟩ := words r.position rawCount afterHead
  split at link
  · cases link
  next d afterWords filled =>
  rw [filled] at isRead
  obtain rfl : d = .readResponse y := isRead
  obtain ⟨z, rest, same⟩ := bytes y rawCount afterWords
  have whole : c = (readLinkBytes (.readResponse y) rawCount afterWords).1 :=
    (Prod.mk.inj link).1.symm
  exact ⟨z, whole.trans rest, same.trans kept⟩

/-- Without a second template, a chain ends with its first link or fails there. -/
theorem decode_single {b c : Body} {successor : Option Successor} {r r' : Reader}
    (link : readLink b r = (c, .ok (successor, r'))) (status : UInt32) :
    decode status [b] r =
      ([c],
        if successor = none ∨ status ≠ 0 then .ok (1, r') else .error (.protocol .noTemplate)) := by
  rw [decode, link]
  cases successor with
  | none => rfl
  | some successor => by_cases failed : status = 0 <;> simp [failed]

end Chain

/-- A body whose data was delivered apart. -/
def Body.apart : Body → Body
  | .readResponse x => .readResponse { x with detached := true }
  | b => b

namespace Message

/-- A message whose data was delivered apart. -/
def apart (m : Message) : Message := { m with bodies := m.bodies.map Body.apart }

/-- The byte count of the first link takes in all that stands behind it. -/
def CountsAll (frame : Bytes) : Prop :=
  ∀ words count, frame[Header.length]? = some words →
    Word.at? frame (Header.length + 1 + 2 * words.toNat) = some (count : UInt16) →
      Header.length + 1 + 2 * words.toNat + 2 + count.toNat = frame.length

variable {frame : Bytes} {room offset count : Nat}

theorem CountsAll.byteCount (all : CountsAll frame) (long : ReadResponse.headLength ≤ frame.length)
    (words : frame[Header.length]? = some ReadResponse.wordCount) :
    ReadResponse.headLength + (Word.decode (frame.drop 57) : UInt16).toNat = frame.length :=
  all _ _ words (if_pos long)

end Message

namespace Chain

variable {frame : Bytes} {room offset count : Nat}

/-- The link of a read response, whole and with its data cut off. -/
theorem readLink_cut (fits : Netbios.Fits (frame.take ReadResponse.headLength) frame.length room
    offset count) (all : Message.CountsAll frame) (unicode : Bool) :
    ∃ successor, ∃ x : ReadResponse, x.data = frame.drop offset ∧ x.detached = false ∧
      readLink (.readResponse .blank) ⟨frame, Header.length, unicode⟩ =
        (.readResponse x, .ok (successor, ⟨frame, frame.length, unicode⟩)) ∧
      readLink (.readResponse (.ofDetached (frame.drop offset)))
          ⟨frame.take offset, Header.length, unicode⟩ =
        ((Body.readResponse x).apart,
          .ok (successor, ⟨frame.take offset, frame.length, unicode⟩)) := by
  generalize frontIs : frame.take ReadResponse.headLength = front at fits
  have long : ReadResponse.headLength ≤ frame.length := by
    have := fits.long
    rw [← frontIs, List.length_take] at this
    omega
  have len : front.length = ReadResponse.headLength := by
    rw [← frontIs]
    exact List.length_take_of_le long
  obtain ⟨tail, rfl⟩ : ∃ tail, frame = front ++ tail :=
    ⟨frame.drop ReadResponse.headLength, by rw [← frontIs, List.take_append_drop]⟩
  have cut : (front ++ tail).take offset = front ++ tail.take (offset - front.length) := by
    have := fits.behind
    rw [List.take_append, List.take_of_length_le this]
  have counted := all.byteCount long (by
    rw [List.getElem?_append_left (by rw [len]; decide), fits.words])
  rw [List.drop_append_of_le_length (by rw [len]; decide),
    Word.decode_append (by rw [List.length_drop, len]; decide)] at counted
  obtain ⟨successor, read⟩ := readLink_front fits.long fits.words unicode
  have whole := read .blank tail
  have parted := read (.ofDetached ((front ++ tail).drop offset))
    (tail.take (offset - front.length))
  rw [counted] at whole parted
  rw [ReadResponse.readBytes_told fits rfl rfl] at whole
  rw [cut]
  exact ⟨successor, _, rfl, rfl, whole, parted⟩

end Chain

namespace Message

variable {frame : Bytes} {room offset count : Nat}

/-- What comes of a read response whose data was delivered apart, next to what comes of it
whole. -/
inductive DeliveredApart (frame data : Bytes) :
    (whole parted : Message × Except Error Unit) → Prop
  | failed (m m' : Message) (e : Error) : DeliveredApart frame data (m, .error e) (m', .error e)
  | read (received : Message) (x : ReadResponse) (bodies : received.bodies = [.readResponse x])
      (content : x.data = data) (attached : x.detached = false)
      (length : received.length = frame.length) :
      DeliveredApart frame data (received, .ok ()) (received.apart, .ok ())

/-- A read response with its data cut off is the whole one, but for how the data came. -/
theorem decode_cut (fits : Netbios.Fits (frame.take ReadResponse.headLength) frame.length room
    offset count) (all : CountsAll frame) {m : Message}
    (waits : m.bodies = [.readResponse .blank]) :
    DeliveredApart frame (frame.drop offset) (m.decode frame)
      ({ m with bodies := [.readResponse (.ofDetached (frame.drop offset))] }.decode
        (frame.take offset)) := by
  have behind : Header.length ≤ (frame.take offset).length := by
    have long := fits.long
    have start := fits.behind
    have ends := fits.ends
    rw [List.length_take] at long start ⊢
    unfold ReadResponse.headLength Header.length at *
    omega
  have heads := Header.fst_decode_append behind (frame.drop offset)
  rw [List.take_append_drop] at heads
  unfold decode
  rw [waits]
  rcases whole : Header.decode frame with ⟨e⟩ | ⟨header, rest⟩ <;>
    rcases cut : Header.decode (frame.take offset) with ⟨e'⟩ | ⟨header', rest'⟩ <;>
    rw [whole, cut] at heads <;> cases heads
  · exact .failed ..
  obtain ⟨successor, x, data, attached, wholeLink, cutLink⟩ :=
    Chain.readLink_cut fits all header.isUnicode
  have named (x : ReadResponse) : (Body.readResponse x).command = .readAndX := rfl
  have start (buffer : Bytes) : (Reader.start buffer header.isUnicode).seek Header.length =
      ⟨buffer, Header.length, header.isUnicode⟩ := rfl
  simp only [named, start, Chain.decode_single wholeLink, Chain.decode_single cutLink]
  by_cases command : Command.readAndX = header.command
  · rw [if_neg (not_not_intro command), if_neg (not_not_intro command)]
    by_cases last : successor = none ∨ header.status ≠ 0
    · simp only [if_pos last]
      exact .read _ x rfl data attached rfl
    · simp only [if_neg last]
      exact .failed ..
  · rw [if_pos command, if_pos command]
    exact .failed ..

end Message

end Smb1
