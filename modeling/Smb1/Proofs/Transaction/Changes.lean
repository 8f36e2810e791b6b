import Smb1.Proofs.Transaction.Faultless
import Smb1.Proofs.Wire.Text

/-! Walking from one record of a change to the next. Whatever distances the records name, a walk
only goes forward, from one boundary of four bytes to a later one, and reads nothing behind the
last byte. Records that were written are walked one after another and read as they were. -/
namespace Smb1.Transaction

open Wire

namespace Change

variable {parameters : Bytes} {position : Nat} {change : Change} {next : UInt32}
  {visited : List Nat} {outcome : Except Error (List Change)}

/-- How long the name is that the record at a position announces. -/
def nameLengthAt (parameters : Bytes) (position : Nat) : Nat :=
  (Word.decode (parameters.drop (position + 8)) : UInt32).toNat

/-- A record at a position, all of it inside, and the distance that it names. -/
structure Found (parameters : Bytes) (position : Nat) (change : Change) (next : UInt32) :
    Prop where
  inside : position + headLength + nameLengthAt parameters position ≤ parameters.length
  next : Word.decode (parameters.drop position) = next
  action : FileAction.ofCode? (Word.decode (parameters.drop (position + 4))) = some change.action
  name : Text.Utf16.decode (Text.Utf16.unitsOf ((parameters.drop (position + headLength)).take
    (nameLengthAt parameters position))) = .ok change.fileName

theorem recordAt_eq_ok_iff :
    recordAt parameters position = .ok (change, next) ↔ Found parameters position change next := by
  unfold recordAt
  -- every check on the way is one that a record inside the parameters passes
  by_cases outside : parameters.length < position
  · refine ⟨fun read => ?_, fun found => absurd found.inside (by omega)⟩
    rw [Buffer.between, if_neg (by omega)] at read
    cases read
  have inside : position ≤ parameters.length := Nat.not_lt.mp outside
  have whole : (parameters.drop position).take (parameters.length - position) =
      parameters.drop position := by
    rw [← List.length_drop, List.take_length]
  rw [Buffer.between_eq_ok inside (Nat.le_refl _), whole]
  simp only [bind, Except.bind, throw, throwThe, MonadExceptOf.throw, List.drop_drop,
    List.length_drop]
  rw [← nameLengthAt]
  by_cases headed : parameters.length - position < headLength
  · rw [if_pos headed]
    exact ⟨nofun, fun found => absurd found.inside (by omega)⟩
  rw [if_neg headed]
  by_cases cut : parameters.length - (position + headLength) < nameLengthAt parameters position
  · refine ⟨fun read => ?_, fun found => absurd found.inside (by omega)⟩
    rw [if_pos cut] at read
    split at read <;> cases read
  have room : nameLengthAt parameters position ≤
      (parameters.drop (position + headLength)).length := by
    rw [List.length_drop]
    omega
  rw [if_neg cut, Buffer.between_eq_ok (Nat.zero_le _) room, List.drop_zero,
    Nat.sub_zero]
  cases named : FileAction.ofCode? (Word.decode (parameters.drop (position + 4))) with
  | none => exact ⟨nofun, fun found => by cases named.symm.trans found.action⟩
  | some action =>
    dsimp only
    cases text : Text.Utf16.decode (Text.Utf16.unitsOf
        ((parameters.drop (position + headLength)).take (nameLengthAt parameters position))) with
    | error e => exact ⟨nofun, fun found => by cases text.symm.trans found.name⟩
    | ok fileName =>
      constructor
      · intro read
        cases read
        exact ⟨by omega, rfl, named, text⟩
      · intro found
        cases named.symm.trans found.action
        cases text.symm.trans found.name
        cases found.next
        rfl

/-- A walk over the records from a position on: where it looks for one, and what it reads. -/
inductive Walks (parameters : Bytes) : Nat → List Nat → Except Error (List Change) → Prop
  | done {position : Nat} (behind : parameters.length ≤ position) :
      Walks parameters position [] (.ok [])
  | broken {position : Nat} {e : Error} (inside : position < parameters.length)
      (failed : recordAt parameters position = .error e) :
      Walks parameters position [position] (.error e)
  | last {position : Nat} {change : Change} (found : Found parameters position change 0) :
      Walks parameters position [position] (.ok [change])
  | misaligned {position : Nat} {change : Change} {next : UInt32}
      (found : Found parameters position change next) (uneven : next % 4 ≠ 0) :
      Walks parameters position [position] (.error (.protocol (.misalignedChange next)))
  | uncounted {position : Nat} {change : Change} {next : UInt32} {e : Error}
      (found : Found parameters position change next) (more : next ≠ 0) (even : next % 4 = 0)
      (overflow : Position.add position next.toNat = .error e) :
      Walks parameters position [position] (.error e)
  | onward {position stop : Nat} {change : Change} {next : UInt32} {visited : List Nat}
      {outcome : Except Error (List Change)} (found : Found parameters position change next)
      (more : next ≠ 0) (even : next % 4 = 0)
      (moved : Position.add position next.toNat = .ok stop)
      (rest : Walks parameters stop visited outcome) :
      Walks parameters position (position :: visited) (outcome.map (change :: ·))

theorem exists_walks (parameters : Bytes) (position : Nat) :
    ∃ visited outcome, Walks parameters position visited outcome := by
  -- what was read before plays no part in where the walk goes
  suffices walks : ∀ read : List Change, ∃ visited outcome,
    Walks parameters position visited outcome from walks []
  intro read
  fun_induction decodeFrom parameters position read with
  | case1 position read inside e failed => exact ⟨_, _, .broken inside failed⟩
  | case2 position read inside change found =>
    exact ⟨_, _, .last (recordAt_eq_ok_iff.mp found)⟩
  | case3 position read inside change next found more uneven =>
    exact ⟨_, _, .misaligned (recordAt_eq_ok_iff.mp found) uneven⟩
  | case4 position read inside change next found more even e overflow =>
    exact ⟨_, _, .uncounted (recordAt_eq_ok_iff.mp found) more (Decidable.of_not_not even) overflow⟩
  | case5 position read inside change next found more even stop moved ih =>
    obtain ⟨visited, outcome, rest⟩ := ih
    exact ⟨_, _, .onward (recordAt_eq_ok_iff.mp found) more (Decidable.of_not_not even) moved rest⟩
  | case6 position read behind => exact ⟨_, _, .done (Nat.not_lt.mp behind)⟩

theorem Found.position_lt (found : Found parameters position change next) :
    position < parameters.length := by
  have inside := found.inside
  have head : 0 < headLength := by decide
  omega

/-- What is read is the outcome of the walk, behind what was read before. -/
theorem decodeFrom_of_walks (walks : Walks parameters position visited outcome)
    (read : List Change) :
    decodeFrom parameters position read = outcome.map (read.reverse ++ ·) := by
  induction walks generalizing read with
  | done behind =>
    rw [decodeFrom, if_neg (Nat.not_lt.mpr behind)]
    simp [Except.map]
  | broken inside failed =>
    rw [decodeFrom, if_pos inside]
    simp [failed, Except.map]
  | last found =>
    rw [decodeFrom, if_pos found.position_lt]
    simp [recordAt_eq_ok_iff.mpr found, Except.map]
  | @misaligned _ _ next found uneven =>
    have more : next ≠ 0 := by
      rintro rfl
      exact uneven rfl
    rw [decodeFrom, if_pos found.position_lt]
    simp [recordAt_eq_ok_iff.mpr found, more, uneven, Except.map]
  | uncounted found more even overflow =>
    rw [decodeFrom, if_pos found.position_lt]
    simp only [recordAt_eq_ok_iff.mpr found, if_neg more, even, ne_eq, not_true_eq_false, if_false]
    split
    next e same =>
      cases overflow.symm.trans same
      rfl
    next same => cases overflow.symm.trans same
  | @onward _ _ _ _ _ outcome found more even moved _ ih =>
    rw [decodeFrom, if_pos found.position_lt]
    simp only [recordAt_eq_ok_iff.mpr found, if_neg more, even, ne_eq, not_true_eq_false, if_false]
    split
    next same => cases moved.symm.trans same
    next same =>
      cases moved.symm.trans same
      rw [ih]
      cases outcome <;> simp [Except.map]

/-- Places for records from a position on: each behind the one before, on a boundary of four bytes,
and inside the parameters. -/
structure Ascends (parameters : Bytes) (position : Nat) (visited : List Nat) : Prop where
  forward : visited.Pairwise (· < ·)
  behind : ∀ p ∈ visited, position ≤ p
  aligned : ∀ p ∈ visited, p % 4 = 0
  inside : ∀ p ∈ visited, p < parameters.length
  few : 4 * visited.length ≤ parameters.length + 3 - position

theorem Ascends.single (aligned : position % 4 = 0) (inside : position < parameters.length) :
    Ascends parameters position [position] where
  forward := List.pairwise_singleton ..
  behind := by simp
  aligned := by simpa using aligned
  inside := by simpa using inside
  few := by simp; omega

theorem Ascends.cons {stop : Nat} (ascends : Ascends parameters stop visited)
    (aligned : position % 4 = 0) (inside : position < parameters.length)
    (moved : position + 4 ≤ stop) : Ascends parameters position (position :: visited) where
  forward := by
    refine List.pairwise_cons.mpr ⟨fun p among => ?_, ascends.forward⟩
    have behind := ascends.behind p among
    omega
  behind := by
    intro p among
    rcases List.mem_cons.mp among with rfl | among
    · exact Nat.le_refl p
    · have behind := ascends.behind p among
      omega
  aligned := List.forall_mem_cons.mpr ⟨aligned, ascends.aligned⟩
  inside := List.forall_mem_cons.mpr ⟨inside, ascends.inside⟩
  few := by
    have few := ascends.few
    rw [List.length_cons]
    omega

/-- A distance that leads on leads to a later boundary. -/
theorem distance_spec (more : next ≠ 0) (even : next % 4 = 0) :
    4 ≤ next.toNat ∧ next.toNat % 4 = 0 := by
  have whole : next.toNat % 4 = 0 := by
    have same := congrArg UInt32.toNat even
    rwa [UInt32.toNat_mod] at same
  have some : next.toNat ≠ 0 := fun none => more (UInt32.toNat_inj.mp none)
  omega

theorem ascends_of_walks (walks : Walks parameters position visited outcome)
    (aligned : position % 4 = 0) : Ascends parameters position visited := by
  induction walks with
  | done => exact ⟨.nil, nofun, nofun, nofun, Nat.zero_le _⟩
  | broken inside => exact .single aligned inside
  | last found => exact .single aligned found.position_lt
  | misaligned found => exact .single aligned found.position_lt
  | uncounted found => exact .single aligned found.position_lt
  | onward found more even moved _ ih =>
    obtain ⟨far, whole⟩ := distance_spec more even
    obtain ⟨rfl, -⟩ := Position.add_eq_ok_iff.mp moved
    exact (ih (by omega)).cons aligned found.position_lt (by omega)

/-- Bytes of a record: up to its own end if it is the last, and up to the next one otherwise. -/
def extent (last : Bool) (c : Change) : Nat :=
  let unpadded := headLength + (Text.Utf16.encode c.fileName).length
  if last then unpadded else Alignment.four.up unpadded

/-- Every record is shorter than a 32-bit number can say. -/
def Sized : List Change → Prop
  | [] => True
  | [c] => c.extent true < UInt32.size
  | c :: rest => c.extent false < UInt32.size ∧ Sized rest

instance decidableSized : DecidablePred Sized
  | [] => .isTrue trivial
  | [c] => inferInstanceAs (Decidable (c.extent true < UInt32.size))
  | _ :: d :: rest => @instDecidableAnd _ _ _ (decidableSized (d :: rest))

/-- Where records begin that stand one behind another from a position on. -/
def starts (position : Nat) : List Change → List Nat
  | [] => []
  | c :: rest => position :: starts (position + c.extent false) rest

/-- The distance that a record names. -/
def distance (last : Bool) (c : Change) : UInt32 :=
  if last then 0 else UInt32.ofNat (c.extent false)

theorem name_le_extent (last : Bool) (c : Change) :
    headLength + (Text.Utf16.encode c.fileName).length ≤ c.extent last := by
  cases last
  · exact Alignment.four.le_up _
  · exact Nat.le_refl _

theorem toNat_distance {c : Change} (small : c.extent false < UInt32.size) :
    (c.distance false).toNat = c.extent false := UInt32.toNat_ofNat_of_lt' small

/-- The distance to the next record leads on, to a boundary of four bytes. -/
theorem distance_leads {c : Change} (small : c.extent false < UInt32.size) :
    c.distance false ≠ 0 ∧ c.distance false % 4 = 0 := by
  have value := toNat_distance small
  constructor
  · intro none
    have some := c.name_le_extent false
    have head : 0 < headLength := by decide
    rw [none] at value
    simp at value
    omega
  · apply UInt32.toNat_inj.mp
    rw [UInt32.toNat_mod, value]
    exact Alignment.four.up_mod _

theorem length_encodeRecord {c : Change} (small : c.extent false < UInt32.size) :
    (encodeRecord false c).length = c.extent false := by
  have padded := c.name_le_extent false
  have more : UInt32.ofNat (Alignment.four.up (headLength +
    (Text.Utf16.encode c.fileName).length)) ≠ 0 := (distance_leads small).1
  simp only [encodeRecord, Bool.false_eq_true, if_false, if_neg more, List.length_append,
    Word.length_encode, size_u32, List.length_replicate]
  simp only [extent, Bool.false_eq_true, if_false, headLength] at padded ⊢
  omega

/-- A record that was written is found where it stands, whatever stands around it. -/
theorem found_written (before after : Bytes) (c : Change) (last : Bool)
    (small : (Text.Utf16.encode c.fileName).length < UInt32.size) :
    Found (before ++ (encodeRecord last c ++ after)) before.length c (c.distance last) := by
  obtain ⟨padding, written⟩ : ∃ padding : Bytes, encodeRecord last c =
      Word.encode (c.distance last) ++ Word.encode c.action.code ++
        Word.encode (UInt32.ofNat (Text.Utf16.encode c.fileName).length) ++
          Text.Utf16.encode c.fileName ++ padding := ⟨_, rfl⟩
  have record := congrArg (· ++ after) written
  simp only [List.append_assoc] at record
  have front (count : Nat) : (before ++ (encodeRecord last c ++ after)).drop
      (before.length + count) = (encodeRecord last c ++ after).drop count := by
    rw [← List.drop_drop, List.drop_left]
  have length : nameLengthAt (before ++ (encodeRecord last c ++ after)) before.length =
      (Text.Utf16.encode c.fileName).length := by
    rw [nameLengthAt, front, record, ← List.append_assoc, List.drop_left' (by simp),
      Word.decode_encode_append]
    exact UInt32.toNat_ofNat_of_lt' small
  have name : (encodeRecord last c ++ after).drop headLength =
      Text.Utf16.encode c.fileName ++ (padding ++ after) := by
    rw [record, ← List.append_assoc, ← List.append_assoc, List.drop_left' (by simp [headLength])]
  constructor
  · have whole := congrArg List.length record
    rw [length]
    simp only [List.length_append, Word.length_encode, size_u32, headLength] at whole ⊢
    omega
  · rw [List.drop_left, record]
    exact Word.decode_encode_append ..
  · rw [front, record, List.drop_left' (by simp), Word.decode_encode_append]
    exact FileAction.ofCode?_code c.action
  · rw [length, front, name, List.take_left, Text.Utf16.unitsOf_encode]
    exact Text.Utf16.decode_units c.fileName

/-- Records that were written are walked one after another. -/
theorem walks_encodeAll {changes : List Change} (before : Bytes) (sized : Sized changes)
    (room : (before ++ encodeAll changes).length < Position.limit) :
    Walks (before ++ encodeAll changes) before.length (starts before.length changes)
      (.ok changes) := by
  -- what was walked already stands in front, so the positions are those of the whole
  fun_induction encodeAll changes generalizing before with
  | case1 => exact .done (by simp)
  | case2 c =>
    have whole := c.name_le_extent true
    have found := found_written before [] c true (by simp only [Sized] at sized; omega)
    rw [List.append_nil] at found
    exact .last found
  | case3 c rest more ih =>
    obtain ⟨small, others⟩ : c.extent false < UInt32.size ∧ Sized rest := by
      cases rest with
      | nil => exact absurd rfl more
      | cons d rest => exact sized
    have whole := c.name_le_extent false
    have found := found_written before (encodeAll rest) c false (by omega)
    obtain ⟨leads, even⟩ := distance_leads small
    have moved : Position.add before.length (c.distance false).toNat =
        .ok (before ++ encodeRecord false c).length := by
      rw [Position.add_eq_ok_iff, List.length_append, length_encodeRecord small,
        toNat_distance small]
      simp only [List.length_append, length_encodeRecord small] at room
      omega
    have on := ih (before ++ encodeRecord false c) others (by rwa [List.append_assoc])
    rw [List.append_assoc, List.length_append, length_encodeRecord small] at on
    rw [List.length_append, length_encodeRecord small] at moved
    exact .onward found leads even moved on

end Change

/-- Changes come back as they were written, whatever the result held, if every record is shorter
than a 32-bit number can say and all of them have positions. Any other bytes are walked to an end as
well, from one boundary to a later one and not beyond the last byte. -/
theorem Result.read_changes (previous : List Change) (data : Bytes) (unicode : Bool) :
    (∀ changes : List Change, Change.Sized changes →
      (Change.encodeAll changes).length < Position.limit →
      Change.Walks (Change.encodeAll changes) 0 (Change.starts 0 changes) (.ok changes) ∧
      (Result.changes previous).read (Result.changes changes).parameters data unicode =
        .ok (.changes changes)) ∧
    ∀ parameters : Bytes, (∃ visited outcome, Change.Walks parameters 0 visited outcome) ∧
      ∀ visited outcome, Change.Walks parameters 0 visited outcome →
        (Result.changes previous).read parameters data unicode = outcome.map .changes ∧
        Change.Ascends parameters 0 visited ∧
        (parameters.length < memoryLimit → Faultless outcome) := by
  have read_of_walks {parameters : Bytes} {visited : List Nat}
      {outcome : Except Error (List Change)} (walks : Change.Walks parameters 0 visited outcome) :
      Change.decodeAll parameters = outcome := by
    rw [Change.decodeAll, Change.decodeFrom_of_walks walks]
    cases outcome <;> rfl
  constructor
  · intro changes sized room
    have walks := Change.walks_encodeAll [] sized room
    refine ⟨walks, ?_⟩
    exact congrArg (Except.map Result.changes) (read_of_walks walks)
  · intro parameters
    refine ⟨Change.exists_walks parameters 0, ?_⟩
    intro visited outcome walks
    have read := read_of_walks walks
    refine ⟨congrArg (Except.map Result.changes) read, Change.ascends_of_walks walks rfl, ?_⟩
    intro memory
    exact read ▸ Change.faultless_decodeAll memory

/-- Three names: one padded to the next record, one with a surrogate pair, and none at all. -/
theorem Result.read_changes_surrogates :
    (Result.changes [⟨.added, "old"⟩]).read
      (Result.changes [⟨.renamedOldName, "a.txt"⟩, ⟨.renamedNewName, "𝄞é"⟩,
        ⟨.removed, ""⟩]).parameters [] true =
      .ok (.changes [⟨.renamedOldName, "a.txt"⟩, ⟨.renamedNewName, "𝄞é"⟩, ⟨.removed, ""⟩]) :=
  ((Result.read_changes [⟨.added, "old"⟩] [] true).1
    [⟨.renamedOldName, "a.txt"⟩, ⟨.renamedNewName, "𝄞é"⟩, ⟨.removed, ""⟩]
    (by decide +kernel) (by decide +kernel)).2

end Smb1.Transaction
