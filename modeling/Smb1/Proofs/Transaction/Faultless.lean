import Smb1.Proofs.Transaction.Reassembly
import Smb1.Proofs.Wire.Safe

/-! What comes back from a transaction is read without a fault, whatever the server sent and
whatever it had sent before. -/
namespace Smb1.Transaction

open Wire

theorem faultless_payloadAt (r : Reader) (offset count : Nat) :
    Faultless (payloadAt r offset count) := by
  unfold payloadAt
  split
  · exact .ok
  · split
    · exact .ok
    · exact .error rfl

/-- A payload is part of the message it is picked from. -/
theorem length_payloadAt {r : Reader} {offset count : Nat} {bytes : Bytes}
    (picked : payloadAt r offset count = .ok bytes) : bytes.length ≤ r.length := by
  unfold payloadAt at picked
  split at picked
  · cases picked
    exact Nat.zero_le _
  · split at picked
    next sliced =>
      cases picked
      unfold Reader.slice at sliced
      dsimp only at sliced
      split at sliced
      · cases sliced
      · split at sliced
        · cases sliced
        · cases sliced
          rw [List.length_take, List.length_drop]
          exact Nat.le_trans (Nat.min_le_right ..) (Nat.sub_le ..)
    · cases picked

namespace ReferralEntry

variable {data body : Bytes} {start offset : Nat}

theorem faultless_require (bytes : Bytes) (count : Nat) : Faultless (require bytes count) := by
  unfold require
  split
  · exact .error rfl
  · exact .ok

theorem length_of_require {bytes : Bytes} {count : Nat} (enough : require bytes count = .ok ()) :
    count ≤ bytes.length := by
  refine Nat.le_of_not_lt fun short => ?_
  rw [require, if_pos short] at enough
  cases enough

/-- An offset is a 16-bit number, so it leads at most so far behind the message. -/
theorem add_offset (memory : data.length < memoryLimit) (inside : start ≤ data.length)
    (small : offset ≤ 0xFFFF) : Position.add start offset = .ok (start + offset) :=
  Position.add_eq_ok_iff.mpr ⟨rfl, sum_lt_limit (Nat.lt_of_le_of_lt inside memory)
    (lt_memoryLimit small)⟩

theorem faultless_textsAt (unicode : Bool) (count : Nat) (memory : data.length < memoryLimit)
    (inside : start ≤ data.length) (small : offset ≤ 0xFFFF) :
    Faultless (textsAt data unicode count start offset) := by
  have read : Safe 0xFFFF 0xFFFF
      (Decoder.times count (Decoder.stringUnaligned data.length))
      ((Reader.start data unicode).seek (start + offset)) :=
    .times (fun _ => .stringUnaligned (by decide)) count
  unfold textsAt
  rw [add_offset memory inside small]
  refine .bind .ok fun _ here => ?_
  cases here
  exact .bind (read memory (Nat.add_le_add inside small)).faultless fun _ _ => .ok

theorem faultless_textAt (unicode : Bool) (memory : data.length < memoryLimit)
    (inside : start ≤ data.length) (small : offset ≤ 0xFFFF) :
    Faultless (textAt data unicode start offset) := by
  have read : Safe 0xFFFF 0xFFFF (Decoder.stringUnaligned data.length)
      ((Reader.start data unicode).seek (start + offset)) := .stringUnaligned (by decide)
  unfold textAt
  rw [add_offset memory inside small]
  refine .bind .ok fun _ here => ?_
  cases here
  exact .bind (read memory (Nat.add_le_add inside small)).faultless fun _ _ => .ok

theorem offsetAt_le (body : Bytes) (index : Nat) : offsetAt body index ≤ 0xFFFF :=
  Nat.le_of_lt_succ (UInt16.toNat_lt _)

theorem faultless_decodeBody (e : ReferralEntry) (unicode : Bool) (body : Bytes)
    (memory : data.length < memoryLimit) (inside : start ≤ data.length) :
    Faultless (e.decodeBody data unicode start body) := by
  have text (index : Nat) : Faultless (textAt data unicode start (offsetAt body index)) :=
    faultless_textAt unicode memory inside (offsetAt_le body index)
  unfold decodeBody
  dsimp only
  split
  · exact .bind (faultless_textAt unicode memory inside (by decide)) fun _ _ => .ok
  split
  · refine .bind (faultless_require _ _) fun _ _ => .bind (text _) fun _ _ => ?_
    exact .bind (text _) fun _ _ => .bind (text _) fun _ _ => .ok
  split
  · refine .bind (faultless_require _ _) fun _ _ => ?_
    split
    · refine .bind (faultless_require _ _) fun _ _ => .bind (text _) fun _ _ => ?_
      exact .bind (faultless_textsAt unicode _ memory inside (offsetAt_le body _)) fun _ _ => .ok
    · refine .bind (faultless_require _ _) fun _ enough => .bind (text _) fun _ _ => ?_
      refine .bind (text _) fun _ _ => .bind (text _) fun _ _ => ?_
      have width : ((body.drop 10).take 16).length = 16 := by
        have long := length_of_require enough
        rw [List.length_take, List.length_drop]
        omega
      rw [Buffer.field_eq_ok width]
      exact .ok
  · exact .error rfl

theorem faultless_decode (unicode : Bool) (start : Nat) (memory : data.length < memoryLimit) :
    Faultless (ReferralEntry.decode data unicode start) := by
  unfold ReferralEntry.decode
  split
  · exact .error rfl
  next inside =>
    refine .bind (faultless_require _ _) fun _ _ => ?_
    exact .bind (faultless_decodeBody _ unicode _ memory (Nat.not_lt.mp inside)) fun _ _ => .ok

/-- An entry that was read starts in the message. -/
theorem start_of_decode {unicode : Bool} {entry : ReferralEntry × UInt16}
    (read : ReferralEntry.decode data unicode start = .ok entry) : start ≤ data.length := by
  unfold ReferralEntry.decode at read
  split at read
  · cases read
  next inside => exact Nat.not_lt.mp inside

end ReferralEntry

namespace ReferralResponse

variable {data : Bytes}

theorem faultless_entriesFrom (unicode : Bool) (count start : Nat) (read : List ReferralEntry)
    (memory : data.length < memoryLimit) :
    Faultless (entriesFrom data unicode count start read) := by
  induction count generalizing start read with
  | zero => exact .ok
  | succ count ih =>
    unfold entriesFrom
    cases decoded : ReferralEntry.decode data unicode start with
    | error e => exact .error (ReferralEntry.faultless_decode unicode start memory e decoded)
    | ok got =>
      obtain ⟨entry, size⟩ := got
      have next := ReferralEntry.add_offset memory (ReferralEntry.start_of_decode decoded)
        (Nat.le_of_lt_succ size.toNat_lt)
      simp only [next]
      split
      · exact .ok
      · exact ih _ _

theorem faultless_decode (unicode : Bool) (memory : data.length < memoryLimit) :
    Faultless (decode data unicode) := by
  unfold decode
  dsimp only
  split
  · exact .error rfl
  · exact .bind (faultless_entriesFrom unicode _ _ _ memory) fun _ _ => .ok

end ReferralResponse

namespace Change

variable {parameters : Bytes} {position : Nat}

/-- A 32-bit number can be added to a position in the message. -/
theorem add_word (memory : parameters.length < memoryLimit) (inside : position ≤ parameters.length)
    (head : Nat) (small : head ≤ 0xFFFF) (word : UInt32) :
    Position.add position (head + word.toNat) = .ok (position + (head + word.toNat)) :=
  Position.add_eq_ok_iff.mpr ⟨rfl, sum_lt_limit (Nat.lt_of_le_of_lt inside memory) (by
    have := word.toNat_lt
    have : 0xFFFF + 2 ^ 32 ≤ memoryLimit := by decide
    omega)⟩

theorem faultless_recordAt (memory : parameters.length < memoryLimit)
    (inside : position ≤ parameters.length) : Faultless (recordAt parameters position) := by
  unfold recordAt
  rw [Buffer.between_eq_ok inside (Nat.le_refl _)]
  refine .bind .ok fun record _ => ?_
  split
  · exact .error rfl
  dsimp only
  split
  · rw [add_word memory inside headLength (by decide)]
    exact .error rfl
  next named =>
    rw [Buffer.between_eq_ok (Nat.zero_le _) (Nat.not_lt.mp named)]
    refine .bind .ok fun name _ => ?_
    split
    · exact .error rfl
    · exact .bind (Text.Utf16.faultless_decode _) fun _ _ => .ok

theorem faultless_decodeFrom (memory : parameters.length < memoryLimit) (position : Nat)
    (read : List Change) : Faultless (decodeFrom parameters position read) := by
  fun_induction decodeFrom parameters position read with
  | case1 position read inside e failed =>
    exact .error (faultless_recordAt memory (Nat.le_of_lt inside) e failed)
  | case2 => exact .ok
  | case3 => exact .error rfl
  | case4 position read inside change next _ _ _ e sum =>
    have moved := add_word memory (Nat.le_of_lt inside) 0 (by decide) next
    rw [Nat.zero_add, sum] at moved
    cases moved
  | case5 position read inside change next _ _ _ stop sum ih => exact ih
  | case6 => exact .ok

theorem faultless_decodeAll (memory : parameters.length < memoryLimit) :
    Faultless (decodeAll parameters) := faultless_decodeFrom memory 0 []

end Change

theorem Result.faultless_read (expected : Result) {parameters data : Bytes} (unicode : Bool)
    (first : parameters.length < memoryLimit) (second : data.length < memoryLimit) :
    Faultless (expected.read parameters data unicode) := by
  cases expected with
  | pipe _ => exact .ok
  | referral _ => exact .map _ (ReferralResponse.faultless_decode unicode second)
  | changes _ => exact .map _ (Change.faultless_decodeAll first)

/-- A displacement is a 32-bit number, and the counter never exceeds the total. -/
theorem Stream.faultless_accept {s : Stream} (sound : s.Sound) (memory : s.total < memoryLimit)
    (part : Section) (displacement : UInt32) {fragment : Bytes}
    (few : fragment.length < memoryLimit) :
    Faultless (s.accept part displacement.toNat fragment) := by
  have stop : Position.add displacement.toNat fragment.length =
      .ok (displacement.toNat + fragment.length) := Position.add_eq_ok_iff.mpr ⟨rfl,
    sum_lt_limit (Nat.lt_trans displacement.toNat_lt (by decide)) few⟩
  by_cases outside : s.total < displacement.toNat + fragment.length
  · simp only [Stream.accept, stop, bind, Except.bind, if_pos outside]
    exact .error rfl
  cases meets : s.overlaps displacement.toNat (displacement.toNat + fragment.length) with
  | true =>
    simp only [Stream.accept, stop, bind, Except.bind, if_neg outside, meets, if_true]
    split
    · exact .ok
    · exact .error rfl
  | false =>
    obtain ⟨s', taken⟩ := accept_of_apart sound (Nat.lt_trans memory (by decide)) part
      (Nat.not_lt.mp outside) (overlaps_eq_false.mp meets)
    rw [taken]
    exact .ok

namespace Reassembly

variable {r : Reassembly} {f : ResponseFrame} {unicode : Bool}

/-- What every frame leaves in order, even one that is rejected. -/
structure Intact (r : Reassembly) : Prop where
  sound : ∀ part, (r.stream part).Sound
  memory : ∀ part, (r.stream part).total < memoryLimit

theorem Intact.of_streams {r' : Reassembly} (h : Intact r) (same : r'.stream = r.stream) :
    Intact r' := ⟨same ▸ h.sound, same ▸ h.memory⟩

theorem intact_count (h : Intact r) (f : ResponseFrame) : Intact (r.count f) := by
  unfold count
  split
  · refine ⟨fun part => ?_, fun part => ?_⟩ <;> cases part
    · exact Stream.sound_ofTotal _
    · exact Stream.sound_ofTotal _
    · exact Nat.lt_trans f.totalParameterCount.toNat_lt (by decide)
    · exact Nat.lt_trans f.totalDataCount.toNat_lt (by decide)
  · exact h.of_streams (by funext part; cases part <;> rfl)

/-- A stream is left as it was, begun anew, or has taken a fragment in. -/
theorem stream_accept (r : Reassembly) (f : ResponseFrame) (unicode : Bool) (part : Section) :
    (r.accept f unicode).1.stream part = r.stream part ∨
      (r.accept f unicode).1.stream part = (r.count f).stream part ∨
      ((r.count f).stream part).accept part (f.displacement part) (f.payload part) =
        .ok ((r.accept f unicode).1.stream part) := by
  unfold accept
  split
  · exact .inl rfl
  dsimp only
  cases parameters : (r.count f).parameters.accept .parameter f.parameterDisplacement.toNat
      f.parameters.bytes with
  | error e => exact .inr (.inl rfl)
  | ok p =>
    dsimp only
    cases data : (r.count f).data.accept .data f.dataDisplacement.toNat f.data.bytes with
    | error e =>
      cases part
      · exact .inr (.inr parameters)
      · exact .inr (.inl rfl)
    | ok d =>
      dsimp only
      refine .inr (.inr ?_)
      split
      · split <;> cases part
        · exact parameters
        · exact data
        · exact parameters
        · exact data
      · cases part
        · exact parameters
        · exact data

theorem intact_accept (h : Intact r) (f : ResponseFrame) (unicode : Bool) :
    Intact (r.accept f unicode).1 := by
  have counted := intact_count h f
  refine ⟨fun part => ?_, fun part => ?_⟩
  · rcases stream_accept r f unicode part with same | same | taken
    · exact same ▸ h.sound part
    · exact same ▸ counted.sound part
    · exact Stream.sound_accept (counted.sound part) taken
  · rcases stream_accept r f unicode part with same | same | taken
    · exact same ▸ h.memory part
    · exact same ▸ counted.memory part
    · obtain ⟨-, ⟨-, same⟩ | ⟨-, same, -⟩⟩ := Stream.accept_eq_ok taken <;>
        exact same ▸ counted.memory part

/-- The states of a response after at most so many frames: empty or finished, and whatever came of
the frames and the messages that were offered since, accepted or not. -/
inductive Reached : Nat → Reassembly → Prop
  | start (result : Result) : Reached 0 (start result)
  | complete {result : Result} {unicode : Bool} {r : Reassembly}
      (made : complete result unicode = .ok r)
      (memory : ∀ part, (r.stream part).total < memoryLimit) : Reached 1 r
  | accept {n : Nat} {r : Reassembly} (before : Reached n r) (f : ResponseFrame)
      (unicode : Bool) : Reached (n + 1) (r.accept f unicode).1
  | readWords {n : Nat} {r : Reassembly} (before : Reached n r) (reader : Reader) :
      Reached n (r.readWords reader).1
  | readBytes {n : Nat} {r : Reassembly} (before : Reached n r) (reader : Reader) :
      Reached (n + 1) (r.readBytes reader).1
  | later {n : Nat} {r : Reassembly} (before : Reached n r) : Reached (n + 1) r

/-- Reading words only changes which frame is the current one. -/
theorem readWords_fst (r : Reassembly) (reader : Reader) :
    ∃ current, (r.readWords reader).1 = { r with current } := by
  unfold readWords
  dsimp only
  split
  · exact ⟨_, rfl⟩
  · split <;> exact ⟨_, rfl⟩

/-- Reading the payloads of a frame is taking in the frame, or leaves the streams alone. -/
theorem readBytes_cases (r : Reassembly) (reader : Reader) :
    ((∃ current, (r.readBytes reader).1 = { r with current }) ∧
      ∃ e, (r.readBytes reader).2 = .error e ∧ e.isOutOfRange = false) ∨
      ∃ f : ResponseFrame, (∀ part, (f.payload part).length ≤ reader.length) ∧
        r.readBytes reader = (({ r with current := f }.accept f reader.unicode).1,
          ({ r with current := f }.accept f reader.unicode).2.map fun _ => reader) := by
  unfold readBytes
  dsimp only
  cases parameters : payloadAt reader r.current.received.parameters r.current.parameters.length with
  | error e => exact .inl ⟨⟨_, rfl⟩, e, rfl, faultless_payloadAt _ _ _ e parameters⟩
  | ok first =>
    dsimp only
    cases data : payloadAt reader r.current.received.data r.current.data.length with
    | error e => exact .inl ⟨⟨_, rfl⟩, e, rfl, faultless_payloadAt _ _ _ e data⟩
    | ok second =>
      refine .inr ⟨_, fun part => ?_, rfl⟩
      cases part
      · exact length_payloadAt parameters
      · exact length_payloadAt data

theorem intact_current (h : Intact r) (current : ResponseFrame) : Intact { r with current } :=
  h.of_streams (stream_current r current)

theorem intact_of_reached {n : Nat} (reached : Reached n r) : Intact r := by
  induction reached with
  | start result =>
    refine ⟨fun part => ?_, fun part => ?_⟩ <;> cases part
    · exact Stream.sound_ofTotal 0
    · exact Stream.sound_ofTotal 0
    · exact (by decide : 0 < memoryLimit)
    · exact (by decide : 0 < memoryLimit)
  | complete made memory =>
    obtain ⟨data, -, made⟩ := ok_of_bind made
    cases made
    exact ⟨fun part => by cases part <;> exact Stream.sound_whole _, memory⟩
  | accept before f unicode ih => exact intact_accept ih f unicode
  | @readWords n r before reader ih =>
    obtain ⟨current, same⟩ := readWords_fst r reader
    exact same ▸ intact_current ih current
  | @readBytes n r before reader ih =>
    rcases readBytes_cases r reader with ⟨⟨current, same⟩, -⟩ | ⟨f, -, folded⟩
    · exact same ▸ intact_current ih current
    · rw [folded]
      exact intact_accept (intact_current ih f) f reader.unicode
  | later before ih => exact ih

theorem frames_accept_le (r : Reassembly) (f : ResponseFrame) (unicode : Bool) :
    (r.accept f unicode).1.frames ≤ r.frames + 1 := by
  have counted := Nat.le_of_eq (frames_count r f)
  unfold accept
  split
  · exact Nat.le_succ _
  dsimp only
  split
  · exact counted
  split
  · exact counted
  split
  · split <;> exact counted
  · exact counted

/-- The counter of frames never exceeds the number of frames. -/
theorem frames_le_of_reached {n : Nat} (reached : Reached n r) : r.frames ≤ n := by
  induction reached with
  | start => exact Nat.le_refl 0
  | complete made =>
    obtain ⟨data, -, made⟩ := ok_of_bind made
    cases made
    exact Nat.le_refl 1
  | accept before f unicode ih =>
    exact Nat.le_trans (frames_accept_le ..) (Nat.succ_le_succ ih)
  | @readWords n r before reader ih =>
    obtain ⟨current, same⟩ := readWords_fst r reader
    exact same ▸ ih
  | @readBytes n r before reader ih =>
    rcases readBytes_cases r reader with ⟨⟨current, same⟩, -⟩ | ⟨f, -, folded⟩
    · exact same ▸ Nat.le_succ_of_le ih
    · rw [folded]
      exact Nat.le_trans (frames_accept_le ..) (Nat.succ_le_succ ih)
  | later before ih => exact Nat.le_succ_of_le ih

/-- Whatever arrived before, a frame is taken in or rejected. -/
theorem faultless_accept (h : Intact r) (f : ResponseFrame) (unicode : Bool)
    (few : ∀ part, (f.payload part).length < memoryLimit) :
    Faultless (r.accept f unicode).2 := by
  have counted := intact_count h f
  unfold accept
  split
  · exact .error rfl
  dsimp only
  cases parameters : (r.count f).parameters.accept .parameter f.parameterDisplacement.toNat
      f.parameters.bytes with
  | error e =>
    exact .error (Stream.faultless_accept (counted.sound .parameter) (counted.memory .parameter)
      _ _ (few .parameter) e parameters)
  | ok p =>
    dsimp only
    cases data : (r.count f).data.accept .data f.dataDisplacement.toNat f.data.bytes with
    | error e =>
      exact .error (Stream.faultless_accept (counted.sound .data) (counted.memory .data)
        _ _ (few .data) e data)
    | ok d =>
      have taken {s s' : Stream} {part : Section} {displacement : Nat} {fragment : Bytes}
          (sound : s.Sound) (memory : s.total < memoryLimit)
          (h : s.accept part displacement fragment = .ok s') : s'.bytes.length < memoryLimit := by
        rw [Stream.length_bytes (Stream.sound_accept sound h)]
        obtain ⟨-, ⟨-, same⟩ | ⟨-, same, -⟩⟩ := Stream.accept_eq_ok h <;> exact same ▸ memory
      have read := (r.count f).result.faultless_read unicode
        (taken (counted.sound .parameter) (counted.memory .parameter) parameters)
        (taken (counted.sound .data) (counted.memory .data) data)
      dsimp only
      split
      · split
        next e failed => exact .error (read e failed)
        · exact .ok
      · exact .ok

/-- The cursor stays where it is while a frame is taken in. -/
theorem safe_readBytes {near : Nat} {reader : Reader} (h : Intact r) :
    Safe near near (Decoder.filled r.readBytes) reader := by
  intro memory here
  rcases readBytes_cases r reader with ⟨-, e, failed, reported⟩ | ⟨f, few, folded⟩
  · exact .filled (failed ▸ .error reported) fun _ read => by rw [failed] at read; cases read
  · have taken := faultless_accept (intact_current h f) f reader.unicode fun part =>
      Nat.lt_of_le_of_lt (few part) memory
    refine .filled (folded ▸ .map _ taken) fun r' read => ?_
    rw [folded] at read
    cases outcome : ({ r with current := f }.accept f reader.unicode).2 with
    | error e =>
      rw [outcome] at read
      cases read
    | ok done =>
      rw [outcome] at read
      cases read
      exact ⟨rfl, here⟩

end Reassembly

end Smb1.Transaction
