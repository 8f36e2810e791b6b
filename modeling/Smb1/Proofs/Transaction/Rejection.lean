import Smb1.Proofs.Transaction.Faultless

/-! What a rejected frame leaves behind. A frame is counted before it is checked, its parameters
are taken in before its data is looked at, and both before the result is read from them. -/
namespace Smb1.Transaction

namespace Stream

variable {s : Stream} {part : Section} {displacement : Nat} {fragment : Bytes}

/-- The ranges that have arrived, latest first. -/
def ranges (s : Stream) : List (Nat × Nat) := s.fragments.map fun f => (f.1, f.1 + f.2.length)

/-- The fragment reaches out of the payload, or brings bytes where some have arrived. -/
def Refuses (s : Stream) (displacement : Nat) (fragment : Bytes) : Prop :=
  s.total < displacement + fragment.length ∨
    fragment ≠ [] ∧ ∃ g ∈ s.fragments,
      g.1 < displacement + fragment.length ∧ displacement < g.1 + g.2.length

theorem not_refuses_of_accept {s' : Stream} (h : s.accept part displacement fragment = .ok s') :
    ¬s.Refuses displacement fragment := by
  obtain ⟨inside, taken⟩ := accept_eq_ok h
  rintro (outside | ⟨some, g, member, before, behind⟩)
  · omega
  · rcases taken with ⟨empty, -⟩ | ⟨-, -, apart⟩
    · exact some empty
    · rcases apart g member with left | right <;> omega

theorem accept_of_empty (inside : displacement ≤ s.total) (small : s.total < Wire.Position.limit) :
    s.accept part displacement [] = .ok s := by
  have stop : Wire.Position.add displacement 0 = .ok displacement :=
    Wire.Position.add_eq_ok_iff.mpr ⟨rfl, by omega⟩
  simp [accept, stop, bind, Except.bind, Nat.not_lt.mpr inside]

/-- A fragment that is not taken in is one that must not be. -/
theorem refuses_of_accept {e : Error} (sound : s.Sound) (small : s.total < Wire.Position.limit)
    (h : s.accept part displacement fragment = .error e) : s.Refuses displacement fragment := by
  by_contra unrefused
  obtain ⟨inside, free⟩ := not_or.mp unrefused
  have inside : displacement + fragment.length ≤ s.total := Nat.not_lt.mp inside
  by_cases empty : fragment = []
  · subst empty
    have within : displacement ≤ s.total := inside
    rw [accept_of_empty within small] at h
    cases h
  · have apart : ∀ g ∈ s.fragments, displacement + fragment.length ≤ g.1 ∨
        g.1 + g.2.length ≤ displacement := by
      intro g member
      by_contra meets
      exact free ⟨empty, g, member, by omega, by omega⟩
    obtain ⟨s', taken⟩ := accept_of_apart sound small part inside apart
    rw [h] at taken
    cases taken

end Stream

namespace Reassembly

variable {n : Nat} {r r' : Reassembly} {f : ResponseFrame} {unicode : Bool} {e : Error}

/-- The ways in which a frame is rejected, each with the state that it leaves. -/
inductive Rejects (r : Reassembly) (f : ResponseFrame) (unicode : Bool) :
    Reassembly → Error → Prop
  | finished (complete : r.isComplete = true) :
      Rejects r f unicode r (.protocol .frameAfterCompletion)
  | parameters {e : Error} (unfinished : r.isComplete = false)
      (refused : (r.count f).parameters.accept .parameter (f.displacement .parameter)
        (f.payload .parameter) = .error e) : Rejects r f unicode (r.count f) e
  | data {p : Stream} {e : Error} (unfinished : r.isComplete = false)
      (taken : (r.count f).parameters.accept .parameter (f.displacement .parameter)
        (f.payload .parameter) = .ok p)
      (refused : (r.count f).data.accept .data (f.displacement .data) (f.payload .data) =
        .error e) : Rejects r f unicode { r.count f with parameters := p } e
  | unread {p d : Stream} {e : Error} (unfinished : r.isComplete = false)
      (taken : (r.count f).parameters.accept .parameter (f.displacement .parameter)
        (f.payload .parameter) = .ok p)
      (filled : (r.count f).data.accept .data (f.displacement .data) (f.payload .data) = .ok d)
      (complete : ({ r.count f with parameters := p, data := d } : Reassembly).isComplete = true)
      (failed : r.result.read p.bytes d.bytes unicode = .error e) :
      Rejects r f unicode { r.count f with parameters := p, data := d } e

theorem rejects_of_accept (h : r.accept f unicode = (r', .error e)) :
    Rejects r f unicode r' e := by
  unfold accept at h
  split at h
  next complete =>
    cases h
    exact .finished complete
  next incomplete =>
    have unfinished : r.isComplete = false := Bool.not_eq_true _ ▸ incomplete
    dsimp only at h
    cases first : (r.count f).parameters.accept .parameter f.parameterDisplacement.toNat
        f.parameters.bytes with
    | error e' =>
      rw [first] at h
      cases h
      exact .parameters unfinished first
    | ok p =>
      rw [first] at h
      dsimp only at h
      cases second : (r.count f).data.accept .data f.dataDisplacement.toNat f.data.bytes with
      | error e' =>
        rw [second] at h
        cases h
        exact .data unfinished first second
      | ok d =>
        rw [second] at h
        dsimp only at h
        split at h
        next complete =>
          cases read : (r.count f).result.read p.bytes d.bytes unicode with
          | error e' =>
            rw [read] at h
            cases h
            rw [result_count] at read
            exact .unread unfinished first second complete read
          | ok result =>
            rw [read] at h
            cases h
        next => cases h

/-- What can be seen of a response has not changed, apart from the number of frames. -/
structure Kept (r r' : Reassembly) : Prop where
  setup : r'.setup = r.setup
  bytes : ∀ part, (r'.stream part).bytes = (r.stream part).bytes
  ranges : ∀ part, (r'.stream part).ranges = (r.stream part).ranges
  isComplete : r'.isComplete = r.isComplete

/-- A frame that is not the first one is refused before anything of it is taken in. -/
def Harmless (r : Reassembly) (f : ResponseFrame) : Prop :=
  r.isComplete = true ∨ 0 < r.frames ∧
    ((r.stream .parameter).Refuses (f.displacement .parameter) (f.payload .parameter) ∨
      f.payload .parameter = [] ∧
        (r.stream .data).Refuses (f.displacement .data) (f.payload .data))

theorem frames_of_isComplete (complete : r.isComplete = true) : 0 < r.frames := by
  simp only [isComplete, Bool.and_eq_true, decide_eq_true_eq] at complete
  exact complete.1.1

theorem frames_of_rejects (rejects : Rejects r f unicode r' e) :
    r'.frames = if r.isComplete then r.frames else r.frames + 1 := by
  cases rejects with
  | finished complete => rw [if_pos complete]
  | parameters unfinished => rw [unfinished, frames_count, if_neg Bool.false_ne_true]
  | data unfinished => rw [unfinished, frames_count, if_neg Bool.false_ne_true]
  | unread unfinished => rw [unfinished, frames_count, if_neg Bool.false_ne_true]

theorem frames_accept (unfinished : r.isComplete = false) (f : ResponseFrame) (unicode : Bool) :
    (r.accept f unicode).1.frames = r.frames + 1 := by
  rcases offered : r.accept f unicode with ⟨r', e | ⟨⟩⟩
  · have frames := frames_of_rejects (rejects_of_accept offered)
    rwa [unfinished, if_neg Bool.false_ne_true] at frames
  · exact (folds_of_accept offered).frames

theorem accept_complete (complete : r.isComplete = true) (f : ResponseFrame) (unicode : Bool) :
    (r.accept f unicode).1 = r := by
  simp only [accept, complete, if_true]

theorem frames_accept_pos (r : Reassembly) (f : ResponseFrame) (unicode : Bool) :
    0 < (r.accept f unicode).1.frames := by
  cases complete : r.isComplete with
  | true =>
    rw [accept_complete complete]
    exact frames_of_isComplete complete
  | false =>
    rw [frames_accept complete]
    exact Nat.succ_pos r.frames

/-- Nothing has arrived before the first frame. -/
theorem stream_of_unstarted (reached : Reached n r) (unstarted : r.frames = 0) (part : Section) :
    r.stream part = .empty := by
  induction reached with
  | start result => cases part <;> rfl
  | complete made memory =>
    obtain ⟨data, -, made⟩ := Wire.ok_of_bind made
    cases made
    cases unstarted
  | accept before f unicode ih => exact absurd unstarted (frames_accept_pos ..).ne'
  | @readWords n r before reader ih =>
    obtain ⟨current, same⟩ := readWords_fst r reader
    rw [same] at unstarted ⊢
    rw [stream_current]
    exact ih unstarted
  | @readBytes n r before reader ih =>
    rcases readBytes_cases r reader with ⟨⟨current, same⟩, -⟩ | ⟨f, -, folded⟩
    · rw [same] at unstarted ⊢
      rw [stream_current]
      exact ih unstarted
    · rw [folded] at unstarted
      exact absurd unstarted (frames_accept_pos ..).ne'
  | later before ih => exact ih unstarted

theorem count_of_started (started : 0 < r.frames) (f : ResponseFrame) :
    r.count f = { r with frames := r.frames + 1 } := by
  rw [count, if_neg started.ne']

theorem Kept.of_streams (setup : r'.setup = r.setup)
    (streams : ∀ part, r'.stream part = r.stream part) (started : 0 < r.frames ∧ 0 < r'.frames) :
    Kept r r' where
  setup := setup
  bytes part := by rw [streams]
  ranges part := by rw [streams]
  isComplete := by
    rw [Bool.eq_iff_iff, isComplete_iff_streams started.1, isComplete_iff_streams started.2]
    simp only [streams]

/-- The first frame leaves its mark whatever becomes of it: its totals are kept, and if they are
zero, nothing seems to be missing any more. -/
theorem not_kept_of_unstarted (reached : Reached n r) (unstarted : r.frames = 0)
    (sound : ∀ part, (r'.stream part).Sound) (counted : 0 < r'.frames) : ¬Kept r r' := by
  intro kept
  have none (part : Section) : (r'.stream part).total = 0 := by
    have bytes := congrArg List.length (kept.bytes part)
    rw [stream_of_unstarted reached unstarted, Stream.length_bytes (sound part)] at bytes
    exact bytes
  have complete : r'.isComplete = true := by
    rw [isComplete_iff_streams counted]
    intro part
    have few := Stream.covered_le (sound part)
    have total := none part
    rw [Stream.isComplete, beq_iff_eq]
    omega
  rw [kept.isComplete] at complete
  have started := frames_of_isComplete complete
  omega

/-- Bytes that a payload has taken in show in its ranges. -/
theorem empty_of_ranges {s s' : Stream} {part : Section} {displacement : Nat} {fragment : Bytes}
    (taken : s.accept part displacement fragment = .ok s') (same : s'.ranges = s.ranges) :
    fragment = [] ∧ s' = s := by
  obtain ⟨-, empty | ⟨-, rfl, -⟩⟩ := Stream.accept_eq_ok taken
  · exact empty
  · have length := congrArg List.length same
    simp [Stream.ranges] at length

theorem sound_of_rejects (intact : Intact r) (rejects : Rejects r f unicode r' e) (part : Section) :
    (r'.stream part).Sound := by
  have counted := (intact_count intact f).sound
  cases rejects with
  | finished => exact intact.sound part
  | parameters => exact counted part
  | data _ taken =>
    cases part
    · exact Stream.sound_accept (counted .parameter) taken
    · exact counted .data
  | unread _ taken filled =>
    cases part
    · exact Stream.sound_accept (counted .parameter) taken
    · exact Stream.sound_accept (counted .data) filled

theorem constant_of_rejects (rejects : Rejects r f unicode r' e) :
    r'.kind = r.kind ∧ r'.result = r.result ∧ r'.current = r.current := by
  have current : (r.count f).current = r.current := by
    unfold count
    split <;> rfl
  cases rejects with
  | finished => exact ⟨rfl, rfl, rfl⟩
  | parameters => exact ⟨kind_count r f, result_count r f, current⟩
  | data => exact ⟨kind_count r f, result_count r f, current⟩
  | unread => exact ⟨kind_count r f, result_count r f, current⟩

theorem frames_pos_of_rejects (rejects : Rejects r f unicode r' e) : 0 < r'.frames := by
  have frames := frames_of_rejects rejects
  split at frames
  next complete => exact frames ▸ frames_of_isComplete complete
  next => omega

/-- A harmless frame changes nothing but the number of frames. -/
theorem recounted_of_harmless (rejects : Rejects r f unicode r' e)
    (harmless : Harmless r f) : 0 < r.frames ∧ r' = { r with frames := r'.frames } := by
  by_cases complete : r.isComplete = true
  · cases rejects with
    | finished => exact ⟨frames_of_isComplete complete, rfl⟩
    | parameters unfinished => exact absurd complete (Bool.eq_false_iff.mp unfinished)
    | data unfinished => exact absurd complete (Bool.eq_false_iff.mp unfinished)
    | unread unfinished => exact absurd complete (Bool.eq_false_iff.mp unfinished)
  · obtain ⟨started, refused⟩ := harmless.resolve_left complete
    refine ⟨started, ?_⟩
    cases rejects with
    | finished complete => rfl
    | parameters => rw [count_of_started started]
    | data _ taken =>
      rw [count_of_started started] at taken ⊢
      rcases refused with refused | ⟨empty, -⟩
      · exact absurd refused (Stream.not_refuses_of_accept taken)
      · obtain ⟨-, ⟨-, rfl⟩ | ⟨some, -⟩⟩ := Stream.accept_eq_ok taken
        · rfl
        · exact absurd empty some
    | unread _ taken filled =>
      rw [count_of_started started] at taken filled
      rcases refused with refused | ⟨-, refused⟩
      · exact absurd refused (Stream.not_refuses_of_accept taken)
      · exact absurd refused (Stream.not_refuses_of_accept filled)

/-- No other frame leaves everything as it was. -/
theorem harmless_of_kept (reached : Reached n r) (rejects : Rejects r f unicode r' e)
    (kept : Kept r r') : Harmless r f := by
  have intact := intact_of_reached reached
  have small (part : Section) : (r.stream part).total < Wire.Position.limit :=
    Nat.lt_trans (intact.memory part) (by decide)
  by_cases unstarted : r.frames = 0
  · exact absurd kept (not_kept_of_unstarted reached unstarted (sound_of_rejects intact rejects)
      (frames_pos_of_rejects rejects))
  have started : 0 < r.frames := Nat.pos_of_ne_zero unstarted
  cases rejects with
  | finished complete => exact .inl complete
  | parameters _ refused =>
    rw [count_of_started started] at refused
    exact .inr ⟨started, .inl
      (Stream.refuses_of_accept (intact.sound .parameter) (small .parameter) refused)⟩
  | data _ taken refused =>
    rw [count_of_started started] at taken refused kept
    obtain ⟨empty, -⟩ := empty_of_ranges taken (kept.ranges .parameter)
    exact .inr ⟨started, .inr ⟨empty,
      Stream.refuses_of_accept (intact.sound .data) (small .data) refused⟩⟩
  | unread unfinished _ _ complete =>
    rw [kept.isComplete, unfinished] at complete
    cases complete

/-- The same parameters are refused when they come again, whatever data they come with. -/
theorem rejects_again {g : ResponseFrame} (intact : Intact r) (rejects : Rejects r f unicode r' e)
    (started : 0 < r.frames) (harmful : ¬Harmless r f)
    (displacement : g.displacement .parameter = f.displacement .parameter)
    (payload : g.payload .parameter = f.payload .parameter) (later : Bool) :
    ∃ e, (r'.accept g later).2 = .error e := by
  have small (part : Section) : (r.stream part).total < Wire.Position.limit :=
    Nat.lt_trans (intact.memory part) (by decide)
  rcases done : r'.accept g later with ⟨r'', e' | ⟨⟩⟩
  · exact ⟨e', rfl⟩
  have folds := folds_of_accept done
  have again := folds.streams .parameter
  rw [count_of_started (frames_pos_of_rejects rejects), displacement, payload] at again
  exfalso
  cases rejects with
  | finished complete => exact harmful (.inl complete)
  | parameters _ refused =>
    rw [count_of_started started] at refused
    exact harmful (.inr ⟨started, .inl
      (Stream.refuses_of_accept (intact.sound .parameter) (small .parameter) refused)⟩)
  | data _ taken refused =>
    rw [count_of_started started] at taken refused
    obtain ⟨-, ⟨empty, -⟩ | ⟨some, rfl, -⟩⟩ := Stream.accept_eq_ok taken
    · exact harmful (.inr ⟨started, .inr ⟨empty,
        Stream.refuses_of_accept (intact.sound .data) (small .data) refused⟩⟩)
    · have long := List.length_pos_of_ne_nil some
      apply Stream.not_refuses_of_accept again
      exact .inr ⟨some, _, List.mem_cons_self, by dsimp only; omega, by dsimp only; omega⟩
  | unread _ _ _ complete =>
    have unfinished := folds.unfinished
    rw [complete] at unfinished
    cases unfinished

/-- What the first frame says of the whole payloads stays in force although it is rejected. -/
theorem totals_of_rejects (rejects : Rejects r f unicode r' e) (unstarted : r.frames = 0) :
    r'.setup = f.setup ∧ ∀ part, (r'.stream part).total = f.total part := by
  have same {s s' : Stream} {part : Section} {displacement : Nat} {fragment : Bytes}
      (taken : s.accept part displacement fragment = .ok s') : s'.total = s.total := by
    obtain ⟨-, ⟨-, rfl⟩ | ⟨-, rfl, -⟩⟩ := Stream.accept_eq_ok taken <;> rfl
  cases rejects with
  | finished complete =>
    have := frames_of_isComplete complete
    omega
  | parameters =>
    rw [count, if_pos unstarted]
    exact ⟨rfl, fun part => by cases part <;> rfl⟩
  | data _ taken =>
    rw [count, if_pos unstarted] at taken ⊢
    refine ⟨rfl, fun part => ?_⟩
    cases part
    · exact same taken
    · rfl
  | unread _ taken filled =>
    rw [count, if_pos unstarted] at taken filled ⊢
    refine ⟨rfl, fun part => ?_⟩
    cases part
    · exact same taken
    · exact same filled

/-- Offers frame after frame, also behind one that is rejected. -/
def offerAll (r : Reassembly) : List Arrival → Reassembly × List (Except Error Unit)
  | [] => (r, [])
  | (f, unicode) :: rest =>
    let (r, outcome) := r.accept f unicode
    let (r, outcomes) := offerAll r rest
    (r, outcome :: outcomes)

theorem isComplete_recounted {frames : Nat} (started : 0 < r.frames) (counted : 0 < frames) :
    ({ r with frames } : Reassembly).isComplete = r.isComplete := by
  simp [isComplete, started, counted]

/-- How many frames there were makes no difference to a frame that is not the first one. -/
theorem accept_recounted (started : 0 < r.frames) {frames : Nat} (counted : 0 < frames)
    (f : ResponseFrame) (unicode : Bool) :
    ∃ more, 0 < more ∧ ({ r with frames } : Reassembly).accept f unicode =
      ({ (r.accept f unicode).1 with frames := more }, (r.accept f unicode).2) := by
  have same := isComplete_recounted started counted
  by_cases complete : r.isComplete = true
  · exact ⟨frames, counted, by simp only [accept, same, complete, if_true]⟩
  · refine ⟨frames + 1, Nat.succ_pos frames, ?_⟩
    have some : 0 < ({ r with frames } : Reassembly).frames := counted
    simp only [accept, same, complete, Bool.false_eq_true, if_false, count_of_started started,
      count_of_started some]
    cases r.parameters.accept .parameter f.parameterDisplacement.toNat f.parameters.bytes with
    | error e => rfl
    | ok p =>
      dsimp only
      cases r.data.accept .data f.dataDisplacement.toNat f.data.bytes with
      | error e => rfl
      | ok d =>
        have both := @isComplete_recounted
          { r with parameters := p, data := d, frames := r.frames + 1 } (frames + 1)
          (Nat.succ_pos r.frames) (Nat.succ_pos frames)
        dsimp only at both ⊢
        rw [both]
        split
        · cases r.result.read p.bytes d.bytes unicode <;> rfl
        · rfl

theorem offerAll_recounted (started : 0 < r.frames) {frames : Nat} (counted : 0 < frames)
    (later : List Arrival) :
    ∃ more, 0 < more ∧ 0 < (r.offerAll later).1.frames ∧
      ({ r with frames } : Reassembly).offerAll later =
        ({ (r.offerAll later).1 with frames := more }, (r.offerAll later).2) := by
  induction later generalizing r frames with
  | nil => exact ⟨frames, counted, started, rfl⟩
  | cons a rest ih =>
    obtain ⟨f, unicode⟩ := a
    obtain ⟨between, some, step⟩ := accept_recounted started counted f unicode
    obtain ⟨more, last, reached, run⟩ := ih (frames_accept_pos r f unicode) some
    exact ⟨more, last, reached, by simp only [offerAll, step, run]⟩

theorem kept_recounted {more : Nat} (started : 0 < r.frames) (counted : 0 < more) :
    Kept r { r with frames := more } :=
  .of_streams rfl (fun part => by cases part <;> rfl) ⟨started, counted⟩

/-- A rejected frame is counted, unless the response is complete, and never changes the result.
Nothing else changes exactly when it is not the first frame and is refused before anything of it is
taken in; then every frame that comes later fares as if it had not been there. Otherwise what it
leaves behind stands in the way: a first frame fixes the totals, and any other one has its
parameters refused when they come again. -/
theorem accept_rejected (reached : Reached n r)
    (rejected : r.accept f unicode = (r', .error e)) :
    r'.kind = r.kind ∧ r'.result = r.result ∧ r'.current = r.current ∧
    r'.frames = (if r.isComplete then r.frames else r.frames + 1) ∧
    (Kept r r' ↔ Harmless r f) ∧
    (Kept r r' → ∀ later, (r'.offerAll later).2 = (r.offerAll later).2 ∧
      Kept (r.offerAll later).1 (r'.offerAll later).1 ∧
      (r'.offerAll later).1.result = (r.offerAll later).1.result) ∧
    (¬Kept r r' →
      (r.frames = 0 → r'.setup = f.setup ∧ ∀ part, (r'.stream part).total = f.total part) ∧
      (0 < r.frames → ∀ (g : ResponseFrame) (later : Bool),
        g.displacement .parameter = f.displacement .parameter →
        g.payload .parameter = f.payload .parameter → ∃ e, (r'.accept g later).2 = .error e)) := by
  have intact := intact_of_reached reached
  have rejects := rejects_of_accept rejected
  have counted := frames_pos_of_rejects rejects
  have kept_of_harmless (harmless : Harmless r f) : Kept r r' := by
    obtain ⟨started, same⟩ := recounted_of_harmless rejects harmless
    exact same ▸ kept_recounted started counted
  have kept_iff : Kept r r' ↔ Harmless r f :=
    ⟨harmless_of_kept reached rejects, kept_of_harmless⟩
  obtain ⟨kind, result, current⟩ := constant_of_rejects rejects
  refine ⟨kind, result, current, frames_of_rejects rejects, kept_iff, ?_, ?_⟩
  · intro kept later
    obtain ⟨started, same⟩ := recounted_of_harmless rejects (kept_iff.mp kept)
    obtain ⟨more, some, reached, run⟩ := offerAll_recounted started counted later
    rw [same, run]
    exact ⟨rfl, kept_recounted reached some, rfl⟩
  · intro touched
    have harmful : ¬Harmless r f := fun harmless => touched (kept_of_harmless harmless)
    constructor
    · exact totals_of_rejects rejects
    · intro started g later displacement payload
      exact rejects_again intact rejects started harmful displacement payload later

/-- A frame of a pipe transaction that announces one byte of parameters and two of data. -/
def announcing (parameters data : Bytes) (displacement : UInt32) : ResponseFrame :=
  { ResponseFrame.blank .transaction with
    totalParameterCount := 1
    totalDataCount := 2
    parameters := .held parameters
    data := .held data
    dataDisplacement := displacement }

theorem accept_rejected_repeated :
    ∃ r r' e, Reached 1 r ∧ r.accept (announcing [] [8] 0) false = (r', .error e) ∧
      r'.frames = 2 ∧ Kept r r' ∧ (r'.offerAll [(announcing [7] [9] 1, false)]).2 = [.ok ()] ∧
      (r'.offerAll [(announcing [7] [9] 1, false)]).1.result = .pipe [8, 9] := by
  let r := ((start (.pipe [])).accept (announcing [] [8] 0) false).1
  have reached : Reached 1 r := .accept (.start _) _ _
  have rejected : r.accept (announcing [] [8] 0) false =
      ((r.accept (announcing [] [8] 0) false).1,
        .error (.protocol (.fragmentOverlap .data 0 1))) := by decide
  obtain ⟨-, -, -, frames, kept, later, -⟩ := accept_rejected reached rejected
  have harmless : Harmless r (announcing [] [8] 0) :=
    .inr ⟨by decide, .inr ⟨rfl, .inr ⟨by decide, (0, [8]), by decide, by decide, by decide⟩⟩⟩
  obtain ⟨outcomes, -, result⟩ := later (kept.mpr harmless) [(announcing [7] [9] 1, false)]
  exact ⟨r, _, _, reached, rejected, frames, kept.mpr harmless, outcomes, result⟩

/-- The parameters of a rejected frame have been taken in, so the frame that makes up for it and
would have completed the response is rejected as well. -/
theorem accept_halfTaken :
    ∃ r r' e, Reached 1 r ∧ r.accept (announcing [7] [8] 0) false = (r', .error e) ∧
      r.frames = 1 ∧ r'.frames = 2 ∧ r.parameters.ranges = [] ∧ r'.parameters.ranges = [(0, 1)] ∧
      (r.accept (announcing [7] [9] 1) false).2 = .ok () ∧
      (r.accept (announcing [7] [9] 1) false).1.isComplete = true ∧
      (r'.accept (announcing [7] [9] 1) false).2 =
        .error (.protocol (.fragmentOverlap .parameter 0 1)) ∧
      (r'.accept (announcing [7] [9] 1) false).1.isComplete = false := by
  let r := ((start (.pipe [])).accept (announcing [] [8] 0) false).1
  have rejected : r.accept (announcing [7] [8] 0) false =
      ((r.accept (announcing [7] [8] 0) false).1,
        .error (.protocol (.fragmentOverlap .data 0 1))) := by decide
  exact ⟨r, _, _, .accept (.start _) _ _, rejected, by decide⟩

end Reassembly
end Smb1.Transaction
