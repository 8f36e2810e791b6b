import Smb1.Proofs.Transaction.Stream

/-! Collecting a response. Whatever frames a server sends, those that are accepted fill the two
payloads without overlap, and the response is complete exactly when no position is missing. -/
namespace Smb1.Transaction

namespace ResponseFrame

/-- How long the frame says a whole payload is. -/
def total (f : ResponseFrame) : Section → Nat
  | .parameter => f.totalParameterCount.toNat
  | .data => f.totalDataCount.toNat

theorem total_lt_limit (f : ResponseFrame) (part : Section) :
    f.total part < Wire.Position.limit := by
  cases part <;> exact Nat.lt_trans (UInt32.toNat_lt _) (by decide)

def displacement (f : ResponseFrame) : Section → Nat
  | .parameter => f.parameterDisplacement.toNat
  | .data => f.dataDisplacement.toNat

def payload (f : ResponseFrame) : Section → Bytes
  | .parameter => f.parameters.bytes
  | .data => f.data.bytes

/-- The positions of a payload that the frame brings. -/
def span (f : ResponseFrame) (part : Section) : List Nat :=
  Transaction.span (f.displacement part) (f.payload part).length

end ResponseFrame

namespace Reassembly

def stream (r : Reassembly) : Section → Stream
  | .parameter => r.parameters
  | .data => r.data

/-- Some frame has arrived, and neither payload misses anything. -/
theorem isComplete_iff_streams {r : Reassembly} (some : 0 < r.frames) :
    r.isComplete = true ↔ ∀ part, (r.stream part).isComplete = true := by
  simp only [isComplete, some, decide_true, Bool.true_and, Bool.and_eq_true]
  constructor
  · rintro ⟨parameters, data⟩ part
    cases part
    · exact parameters
    · exact data
  · exact fun all => ⟨all .parameter, all .data⟩

/-- A frame that arrives, and whether its message has Unicode strings. -/
abbrev Arrival := ResponseFrame × Bool

/-- Takes in frames as they arrive, up to the first that is rejected. -/
def acceptAll (r : Reassembly) : List Arrival → Except Error Reassembly
  | [] => .ok r
  | (f, unicode) :: rest =>
    match r.accept f unicode with
    | (r, .ok ()) => acceptAll r rest
    | (_, .error e) => .error e

/-- What taking in one frame does. -/
structure Folds (r : Reassembly) (f : ResponseFrame) (unicode : Bool) (r' : Reassembly) : Prop where
  unfinished : r.isComplete = false
  streams : ∀ part, ((r.count f).stream part).accept part (f.displacement part) (f.payload part) =
    .ok (r'.stream part)
  frames : r'.frames = r.frames + 1
  kind : r'.kind = r.kind
  pending : r'.isComplete = false → r'.result = r.result
  result : r'.isComplete = true →
    r.result.read (r'.stream .parameter).bytes (r'.stream .data).bytes unicode = .ok r'.result

theorem frames_count (r : Reassembly) (f : ResponseFrame) :
    (r.count f).frames = r.frames + 1 := by
  unfold count
  split
  next none => rw [none]
  next => rfl

theorem kind_count (r : Reassembly) (f : ResponseFrame) : (r.count f).kind = r.kind := by
  unfold count
  split <;> rfl

theorem result_count (r : Reassembly) (f : ResponseFrame) : (r.count f).result = r.result := by
  unfold count
  split <;> rfl

theorem folds_of_accept {r r' : Reassembly} {f : ResponseFrame} {unicode : Bool}
    (h : r.accept f unicode = (r', .ok ())) : r.Folds f unicode r' := by
  unfold accept at h
  split at h
  · cases h
  next unfinished =>
    have unfinished : r.isComplete = false := by simpa using unfinished
    simp only at h
    cases parameters : (r.count f).parameters.accept .parameter f.parameterDisplacement.toNat
        f.parameters.bytes with
    | error e =>
      rw [parameters] at h
      cases h
    | ok p =>
      rw [parameters] at h
      simp only at h
      cases data : (r.count f).data.accept .data f.dataDisplacement.toNat f.data.bytes with
      | error e =>
        rw [data] at h
        cases h
      | ok d =>
        rw [data] at h
        simp only at h
        have streams : ∀ part, ((r.count f).stream part).accept part (f.displacement part)
            (f.payload part) = .ok (match part with | .parameter => p | .data => d) := by
          intro part
          cases part
          · exact parameters
          · exact data
        cases finished :
            ({ r.count f with parameters := p, data := d } : Reassembly).isComplete with
        | false =>
          simp only [finished, Bool.false_eq_true, if_false, Prod.mk.injEq, and_true] at h
          subst h
          exact ⟨unfinished, fun part => by cases part <;> exact streams _, frames_count r f,
            kind_count r f, fun _ => result_count r f, fun done => absurd (finished.symm.trans done)
              nofun⟩
        | true =>
          simp only [finished, if_true] at h
          cases read : (r.count f).result.read p.bytes d.bytes unicode with
          | error e =>
            rw [read] at h
            cases h
          | ok result =>
            rw [read] at h
            simp only [Prod.mk.injEq, and_true] at h
            subst h
            exact ⟨unfinished, fun part => by cases part <;> exact streams _, frames_count r f,
              kind_count r f, fun pending => absurd (finished.symm.trans pending) nofun,
              fun _ => (result_count r f) ▸ read⟩

/-- A frame that both streams take in is folded in when the result can be read from whole ones. -/
theorem accept_of_streams {r : Reassembly} {f : ResponseFrame} {unicode : Bool} {p d : Stream}
    (unfinished : r.isComplete = false)
    (parameters : (r.count f).parameters.accept .parameter (f.displacement .parameter)
      (f.payload .parameter) = .ok p)
    (data : (r.count f).data.accept .data (f.displacement .data) (f.payload .data) = .ok d)
    (read : ({ r.count f with parameters := p, data := d } : Reassembly).isComplete = true →
      ∃ result, r.result.read p.bytes d.bytes unicode = .ok result) :
    (r.accept f unicode).2 = .ok () := by
  simp only [ResponseFrame.displacement, ResponseFrame.payload] at parameters data
  simp only [accept, unfinished, parameters, data, Bool.false_eq_true, if_false]
  split
  next finished =>
    obtain ⟨result, read⟩ := read finished
    rw [result_count, read]
  next => rfl

/-- The payloads after some frames: each consists of what the frames brought, in the order in which
they arrived. -/
structure Gathers (arrivals : List Arrival) (r : Reassembly) : Prop where
  frames : r.frames = arrivals.length
  sound : ∀ part, (r.stream part).Sound
  total : ∀ first ∈ arrivals.head?, ∀ part, (r.stream part).total = first.1.total part
  within : ∀ a ∈ arrivals, ∀ part,
    a.1.displacement part + (a.1.payload part).length ≤ (r.stream part).total
  fragments : ∀ part, (r.stream part).fragments =
    ((arrivals.map fun a => (a.1.displacement part, a.1.payload part)).filter
      fun fragment => !fragment.2.isEmpty).reverse

/-- A response after some frames: what the frames brought, and a result when nothing is missing. -/
structure Collects (expected : Result) (arrivals : List Arrival) (r : Reassembly) : Prop
    extends Gathers arrivals r where
  kind : r.kind = expected.kind
  pending : r.isComplete = false → r.result = expected
  result : r.isComplete = true → ∃ last ∈ arrivals.getLast?,
    expected.read (r.stream .parameter).bytes (r.stream .data).bytes last.2 = .ok r.result

theorem collects_start (expected : Result) : Collects expected [] (start expected) where
  frames := rfl
  kind := rfl
  sound part := by cases part <;> exact Stream.sound_ofTotal 0
  total := nofun
  within := nofun
  fragments part := by cases part <;> rfl
  pending _ := rfl
  result := nofun

/-- Before a frame is taken in its streams hold what came earlier. -/
theorem stream_count {arrivals : List Arrival} {r : Reassembly} (gathered : Gathers arrivals r)
    (f : ResponseFrame) (part : Section) :
    ((r.count f).stream part).Sound ∧
      ((r.count f).stream part).fragments = (r.stream part).fragments ∧
      ((r.count f).stream part).total =
        if arrivals = [] then f.total part else (r.stream part).total := by
  have frames := gathered.frames
  have fragments := gathered.fragments part
  unfold count
  split
  next first =>
    have none : arrivals = [] := List.eq_nil_of_length_eq_zero (frames ▸ first)
    subst none
    rw [if_pos rfl, fragments]
    cases part <;> exact ⟨Stream.sound_ofTotal _, rfl, rfl⟩
  next later =>
    have some : arrivals ≠ [] := fun none => later (frames.trans (none ▸ rfl))
    rw [if_neg some]
    have sound := gathered.sound part
    cases part <;> exact ⟨sound, rfl, rfl⟩

/-- One more frame that both streams take in is one more arrival. -/
theorem gathers_streams {arrivals : List Arrival} {r r' : Reassembly} {f : ResponseFrame}
    (gathered : Gathers arrivals r) (unicode : Bool) (frames : r'.frames = r.frames + 1)
    (streams : ∀ part, ((r.count f).stream part).accept part (f.displacement part)
      (f.payload part) = .ok (r'.stream part)) : Gathers (arrivals ++ [(f, unicode)]) r' := by
  have totals (part : Section) : (r'.stream part).total = ((r.count f).stream part).total := by
    obtain ⟨-, ⟨-, stream⟩ | ⟨-, stream, -⟩⟩ := Stream.accept_eq_ok (streams part) <;> rw [stream]
  constructor
  case frames => rw [frames, gathered.frames, List.length_append, List.length_singleton]
  case sound =>
    intro part
    exact Stream.sound_accept (stream_count gathered f part).1 (streams part)
  case total =>
    intro first isFirst part
    rw [totals, (stream_count gathered f part).2.2]
    cases arrivals with
    | nil =>
      obtain rfl : (f, unicode) = first := Option.some.inj isFirst
      rfl
    | cons a rest => exact gathered.total first isFirst part
  case within =>
    intro a member part
    rcases List.mem_append.mp member with earlier | last
    · have some : arrivals ≠ [] := List.ne_nil_of_mem earlier
      rw [totals, (stream_count gathered f part).2.2, if_neg some]
      exact gathered.within a earlier part
    · obtain rfl := List.mem_singleton.mp last
      rw [totals]
      exact (Stream.accept_eq_ok (streams part)).1
  case fragments =>
    intro part
    have earlier := (stream_count gathered f part).2.1.trans (gathered.fragments part)
    rw [List.map_append, List.filter_append, List.reverse_append, ← earlier]
    obtain ⟨-, ⟨empty, stream⟩ | ⟨some, stream, -⟩⟩ := Stream.accept_eq_ok (streams part)
    · simp [stream, empty]
    · simp [stream, some]

/-- One more frame that is accepted is one more arrival, and the last one has the result read. -/
theorem collects_accept {expected : Result} {arrivals : List Arrival} {r r' : Reassembly}
    {f : ResponseFrame} {unicode : Bool} (collected : Collects expected arrivals r)
    (h : r.accept f unicode = (r', .ok ())) :
    Collects expected (arrivals ++ [(f, unicode)]) r' := by
  have folds := folds_of_accept h
  have same := collected.pending folds.unfinished
  refine ⟨gathers_streams collected.toGathers unicode folds.frames folds.streams,
    folds.kind.trans collected.kind, fun pending => (folds.pending pending).trans same,
    fun finished => ⟨(f, unicode), by simp, ?_⟩⟩
  rw [← same]
  exact folds.result finished

theorem stream_current (r : Reassembly) (current : ResponseFrame) :
    ({ r with current } : Reassembly).stream = r.stream := by
  funext part
  cases part <;> rfl

/-- Which frame was read last is no part of what was collected. -/
theorem collects_current {expected : Result} {arrivals : List Arrival} {r : Reassembly}
    (collected : Collects expected arrivals r) (current : ResponseFrame) :
    Collects expected arrivals { r with current } := by
  refine ⟨⟨collected.frames, ?_, ?_, ?_, ?_⟩, collected.kind, collected.pending, ?_⟩ <;>
    rw [stream_current]
  · exact collected.sound
  · exact collected.total
  · exact collected.within
  · exact collected.fragments
  · exact collected.result

theorem collects_acceptAll {expected : Result} {earlier later : List Arrival}
    {r r' : Reassembly} (collected : Collects expected earlier r)
    (h : acceptAll r later = .ok r') : Collects expected (earlier ++ later) r' := by
  induction later generalizing earlier r with
  | nil =>
    cases h
    rwa [List.append_nil]
  | cons a rest ih =>
    obtain ⟨f, unicode⟩ := a
    unfold acceptAll at h
    split at h
    next next accepted =>
      rw [← List.singleton_append, ← List.append_assoc]
      exact ih (collects_accept collected accepted) h
    next => cases h

/-- What has been accepted at the end was accepted at every point before. -/
theorem acceptAll_append {r r' : Reassembly} {earlier later : List Arrival}
    (h : acceptAll r (earlier ++ later) = .ok r') :
    ∃ mid, acceptAll r earlier = .ok mid ∧ acceptAll mid later = .ok r' := by
  induction earlier generalizing r with
  | nil => exact ⟨r, rfl, h⟩
  | cons a rest ih =>
    obtain ⟨f, unicode⟩ := a
    simp only [List.cons_append, acceptAll] at h ⊢
    split at h
    next next accepted => exact ih h
    next => cases h

namespace Gathers

variable {arrivals : List Arrival} {r : Reassembly}

theorem mem_fragments (gathered : Gathers arrivals r) {a : Arrival}
    (member : a ∈ arrivals) {part : Section} (some : a.1.payload part ≠ []) :
    (a.1.displacement part, a.1.payload part) ∈ (r.stream part).fragments := by
  rw [gathered.fragments, List.mem_reverse, List.mem_filter]
  exact ⟨List.mem_map.mpr ⟨a, member, rfl⟩, by simpa using some⟩

theorem mem_positions (gathered : Gathers arrivals r) {part : Section}
    {position : Nat} : position ∈ (r.stream part).positions ↔
      ∃ a ∈ arrivals, position ∈ a.1.span part := by
  simp only [Stream.positions, gathered.fragments, List.mem_flatMap, List.mem_reverse,
    List.mem_filter, List.mem_map]
  constructor
  · rintro ⟨f, ⟨⟨a, member, rfl⟩, -⟩, inside⟩
    exact ⟨a, member, inside⟩
  · rintro ⟨a, member, inside⟩
    have some : a.1.payload part ≠ [] := by
      intro none
      have := mem_span.mp inside
      rw [none, List.length_nil] at this
      omega
    exact ⟨_, ⟨⟨a, member, rfl⟩, by simpa using some⟩, inside⟩

theorem disjoint (gathered : Gathers arrivals r) (part : Section) :
    arrivals.Pairwise fun a b => List.Disjoint (a.1.span part) (b.1.span part) := by
  have apart := (gathered.sound part).apart
  rw [gathered.fragments, List.pairwise_reverse, List.pairwise_filter, List.pairwise_map] at apart
  refine apart.imp fun {a b} apart position inA inB => ?_
  have inA := mem_span.mp inA
  have inB := mem_span.mp inB
  have some : ∀ {f : ResponseFrame}, f.payload part = [] → (f.payload part).length = 0 :=
    fun none => by rw [none, List.length_nil]
  have apart := apart (by simpa using fun none => by have := some none; omega)
    (by simpa using fun none => by have := some none; omega)
  simp only at apart
  omega

theorem covered (gathered : Gathers arrivals r) (part : Section) :
    (r.stream part).covered = (arrivals.flatMap fun a => a.1.span part).toFinset.card := by
  rw [Stream.covered_eq_card (gathered.sound part)]
  congr 1
  ext position
  simp only [List.mem_toFinset, gathered.mem_positions, List.mem_flatMap]

/-- The counter of a payload adds up what the frames brought of it. -/
theorem covered_eq_length (gathered : Gathers arrivals r) (part : Section) :
    (r.stream part).covered = (arrivals.flatMap fun a => a.1.payload part).length := by
  have empty (fragments : List (Nat × Bytes)) :
      (fragments.filter fun fragment => !fragment.2.isEmpty).flatMap (·.2) =
        fragments.flatMap (·.2) := by
    induction fragments with
    | nil => rfl
    | cons fragment rest ih =>
      cases none : fragment.2 with
      | nil => simp [none, ih]
      | cons byte bytes => simp [none, ih]
  rw [Stream.covered_eq_length, gathered.fragments,
    ((List.reverse_perm _).flatMap_right _).length_eq, empty, List.flatMap_map]

theorem delivered (gathered : Gathers arrivals r) {a : Arrival} (member : a ∈ arrivals)
    (part : Section) : ∀ i < (a.1.payload part).length,
      (r.stream part).bytes[a.1.displacement part + i]? = (a.1.payload part)[i]? := by
  intro i lt
  have some : a.1.payload part ≠ [] := List.ne_nil_of_length_pos (by omega)
  exact Stream.getElem?_bytes (gathered.sound part) _ (gathered.mem_fragments member some) i lt

theorem isComplete_iff (gathered : Gathers arrivals r) {first : Arrival}
    (isFirst : arrivals.head? = some first) :
    r.isComplete = true ↔
      ∀ part, ∀ position < first.1.total part, ∃ a ∈ arrivals, position ∈ a.1.span part := by
  have some : 0 < r.frames := by
    rw [gathered.frames]
    exact List.length_pos_of_mem (List.mem_of_head? isFirst)
  have whole (part : Section) := Stream.isComplete_iff (gathered.sound part)
  have total (part : Section) := gathered.total first isFirst part
  simp only [total, gathered.mem_positions] at whole
  rw [isComplete_iff_streams some]
  exact forall_congr' whole

end Gathers

/-- However a server cuts, orders and repeats its frames, those accepted by a fresh response bring
disjoint parts of payloads of the announced length, nothing that has arrived is overwritten, and the
response is complete, and read from exactly these payloads, when no position is missing. -/
theorem acceptAll_sound {expected : Result} {arrivals : List Arrival} {r : Reassembly}
    (accepted : acceptAll (start expected) arrivals = .ok r) :
    (∀ part,
      (arrivals.Pairwise fun a b => List.Disjoint (a.1.span part) (b.1.span part)) ∧
      (∀ first ∈ arrivals.head?, (r.stream part).bytes.length = first.1.total part ∧
        ∀ a ∈ arrivals, ∀ position ∈ a.1.span part, position < first.1.total part) ∧
      (r.stream part).covered = (arrivals.flatMap fun a => a.1.span part).toFinset.card ∧
      ∀ earlier later, arrivals = earlier ++ later →
        ∃ mid, acceptAll (start expected) earlier = .ok mid ∧
          ∀ a ∈ earlier, ∀ i < (a.1.payload part).length,
            (mid.stream part).bytes[a.1.displacement part + i]? = (a.1.payload part)[i]? ∧
            (r.stream part).bytes[a.1.displacement part + i]? = (a.1.payload part)[i]?) ∧
    (r.isComplete = true ↔ ∃ first ∈ arrivals.head?, ∀ part, ∀ position < first.1.total part,
      ∃ a ∈ arrivals, position ∈ a.1.span part) ∧
    (r.isComplete = true → ∃ last ∈ arrivals.getLast?,
      expected.read r.parameters.bytes r.data.bytes last.2 = .ok r.result) := by
  have collected : Collects expected arrivals r :=
    collects_acceptAll (collects_start expected) accepted
  refine ⟨fun part => ⟨collected.disjoint part, ?_, collected.covered part, ?_⟩, ?_,
    collected.result⟩
  · intro first isFirst
    refine ⟨?_, fun a member position inside => ?_⟩
    · rw [Stream.length_bytes (collected.sound part), collected.total first isFirst]
    · have within := collected.within a member part
      rw [collected.total first isFirst] at within
      have := mem_span.mp inside
      omega
  · rintro earlier later rfl
    obtain ⟨mid, reached, _⟩ := acceptAll_append accepted
    have before : Collects expected earlier mid :=
      collects_acceptAll (collects_start expected) reached
    refine ⟨mid, reached, fun a member i lt => ⟨before.delivered member part i lt, ?_⟩⟩
    exact collected.delivered (List.mem_append_left later member) part i lt
  · cases arrivals with
    | nil =>
      cases accepted
      simp [isComplete, start]
    | cons first rest =>
      rw [collected.isComplete_iff rfl]
      constructor
      · exact fun all => ⟨first, rfl, all⟩
      · rintro ⟨other, isFirst, all⟩
        obtain rfl : first = other := Option.some.inj isFirst
        exact all

/-- Three bytes of data in two frames, the last byte first. -/
def lastByteFirst : List Arrival :=
  let frame := { ResponseFrame.blank .transaction with totalDataCount := 3 }
  [({ frame with dataDisplacement := 2, data := .held [3] }, false),
    ({ frame with data := .held [1, 2] }, false)]

theorem acceptAll_sound_lastByteFirst :
    ∃ r, acceptAll (start (.pipe [])) lastByteFirst = .ok r ∧ (r.stream .data).covered = 3 ∧
      r.isComplete = true ∧ r.result = .pipe [1, 2, 3] := by
  have filled : (acceptAll (start (.pipe [])) lastByteFirst).toOption.map (·.data.bytes) =
      some [1, 2, 3] := by decide
  cases accepted : acceptAll (start (.pipe [])) lastByteFirst with
  | error e =>
    rw [accepted] at filled
    cases filled
  | ok r =>
    rw [accepted] at filled
    have bytes : r.data.bytes = [1, 2, 3] := Option.some.inj filled
    obtain ⟨streams, complete, result⟩ := acceptAll_sound accepted
    have done : r.isComplete = true := by
      rw [complete]
      refine ⟨_, rfl, fun part => ?_⟩
      cases part <;> decide
    obtain ⟨last, -, read⟩ := result done
    refine ⟨r, rfl, (streams .data).2.2.1, done, ?_⟩
    rw [bytes] at read
    exact (Except.ok.inj read).symm

end Reassembly

end Smb1.Transaction
