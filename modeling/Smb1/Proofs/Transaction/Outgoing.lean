import Mathlib.Data.List.Forall2
import Smb1.Proofs.Message.Alone
import Smb1.Proofs.Transaction.Cut
import Smb1.Transaction.Outgoing

/-! A request in frames. Between two frames a request has sent all of both payloads up to where it
stands, and its buffer has room for more; so the frames end with both payloads sent. -/
namespace Smb1.Transaction

open Wire

namespace RequestFrame

variable {f : RequestFrame} {header : Header} {maxSize : Nat}

/-- How long the frame says a whole payload is. -/
def total (f : RequestFrame) : Section → Nat
  | .parameter => f.totalParameterCount.toNat
  | .data => f.totalDataCount.toNat

def displacement (f : RequestFrame) : Section → Nat
  | .parameter => f.parameterDisplacement.toNat
  | .data => f.dataDisplacement.toNat

def payload (f : RequestFrame) : Section → Bytes
  | .parameter => f.parameters.bytes
  | .data => f.data.bytes

/-- What the frame carries of a payload, and where it belongs. -/
def piece (f : RequestFrame) (part : Section) : Nat × Bytes := (f.displacement part, f.payload part)

/-- The frame has a message of at most `maxSize` bytes to itself, and who expects its command reads
`g` there. -/
def Crosses (config : Config) (header : Header) (maxSize : Nat) (f g : RequestFrame) : Prop :=
  ∃ (bytes : Bytes) (sent received : Message) (template : RequestFrame),
    (Message.ofBodies header [.transactionRequest f]).encode config maxSize = .ok (bytes, sent) ∧
    bytes.length ≤ maxSize ∧ expecting f.command = .ok template ∧
    (Message.expecting [.transactionRequest template]).decode bytes = (received, .ok ()) ∧
    received.bodies = [.transactionRequest g]

theorem blockSize_transactionRequest (f : RequestFrame) :
    (Body.transactionRequest f).blockSize = 0 := by
  have plain : f.command.isAndX = false := by
    unfold command
    split <;> simp only [Body.isAndX_transaction]
  simp [Body.blockSize, Body.isAndX, Body.command, plain]

/-- A frame that fits crosses, and comes out with the fields that it has on the wire. -/
theorem crosses_returned (config : Config) (h : f.Expressible header.isUnicode)
    (small : maxSize ≤ 0xFFFF)
    (fits : Header.length + 1 + f.wordsLength + 2 + (f.bytes.bytesAt
      (Header.length + 1 + f.wordsLength + 2) header.isUnicode).length ≤ maxSize) :
    f.Crosses config header maxSize (f.returned (Header.length + 1) header.isUnicode) := by
  have starts : Chain.wordsStart (.transactionRequest f) Header.length = Header.length + 1 := by
    rw [Chain.wordsStart, blockSize_transactionRequest]
  have stops : Chain.stop (.transactionRequest f) Header.length header.isUnicode ≤ maxSize := by
    rw [Chain.stop, Chain.bytesStart, starts]
    exact fits
  have template : expecting f.command = .ok (blank f.kind f.secondary) := by
    unfold expecting command
    cases f.secondary <;> simp
  have timely : (Body.transactionRequest f).Timely := List.forall_mem_nil _
  have own : (Body.transactionRequest f).Expressible header.isUnicode := h
  have takes := Body.takes_transactionRequest h (Nat.le_trans fits small)
  rw [← starts] at takes
  obtain ⟨sent, encoded⟩ := Message.encode_alone config timely stops
  have waiting : (Message.expecting [.transactionRequest (blank f.kind f.secondary)]).bodies =
      [.transactionRequest (blank f.kind f.secondary)] := rfl
  have decoded := Message.decode_alone waiting takes (Body.wordCount_le own)
    (Nat.le_trans stops small)
  refine ⟨_, sent, _, _, encoded, ?_, template, decoded, by rw [starts]⟩
  rw [Message.length_alone]
  exact stops

theorem total_returned (f : RequestFrame) (start : Nat) (unicode : Bool) (part : Section) :
    (f.returned start unicode).total part = f.total part := by
  unfold returned onWire
  cases part <;> split <;> rfl

theorem payload_returned (f : RequestFrame) (start : Nat) (unicode : Bool) (part : Section) :
    (f.returned start unicode).payload part = f.payload part := by
  unfold returned onWire
  cases part <;> split <;> rfl

/-- A first frame has no displacements on the wire. -/
theorem displacement_returned (start : Nat) (unicode : Bool) {part : Section}
    (first : f.secondary = false → f.displacement part = 0) :
    (f.returned start unicode).displacement part = f.displacement part := by
  unfold returned onWire
  cases secondary : f.secondary with
  | true => cases part <;> rfl
  | false =>
    rw [first secondary]
    cases part <;> rfl

/-- Frames whose pieces tile a payload carry it, each from where those before it end. -/
theorem payload_of_tiles {frames : List RequestFrame} {payload : Bytes} {part : Section}
    (tiles : Tiles payload 0 (frames.map (·.piece part))) :
    (∀ earlier g later, frames = earlier ++ g :: later →
      g.displacement part = (earlier.flatMap (·.payload part)).length) ∧
    frames.flatMap (·.payload part) = payload := by
  constructor
  · rintro earlier g later rfl
    have here := tiles.fst_eq (List.map_append ..)
    rw [List.flatMap_map, Nat.zero_add] at here
    exact here
  · have whole := tiles.flatMap_eq
    rw [List.flatMap_map, List.drop_zero] at whole
    exact whole

end RequestFrame

namespace Subcommand

theorem maxParameterCount_le (s : Subcommand) : s.maxParameterCount.toNat ≤ s.kind.maxTotal := by
  cases s with
  | notify r =>
    have lt := r.maxParameterCount.toNat_lt
    show r.maxParameterCount.toNat ≤ 0xFFFFFFFF
    omega
  | _ => exact Nat.zero_le _

theorem maxDataCount_le (s : Subcommand) : s.maxDataCount.toNat ≤ s.kind.maxTotal := by
  cases s with
  | pipe r | referral r =>
    show r.maxDataCount.toUInt32.toNat ≤ 0xFFFF
    have lt := r.maxDataCount.toNat_lt
    rw [UInt16.toNat_toUInt32]
    omega
  | notify r => exact Nat.zero_le _

theorem length_setup_le (s : Subcommand) : s.setup.length ≤ 4 := by
  cases s <;> simp [setup, NotifyRequest.setup]

theorem name_isSome_iff (s : Subcommand) : s.name.isSome ↔ s.kind = .transaction := by
  cases s <;> simp [name, kind]

theorem terminable_name (s : Subcommand) (unicode : Bool) :
    ∀ name ∈ s.name, Text.Terminable unicode name := by
  intro text member
  cases s with
  | pipe r =>
    obtain rfl : PipeRequest.name = text := Option.some.inj member
    cases unicode <;> decide
  | _ => cases member

end Subcommand

namespace Outgoing

variable {o : Outgoing}

def payload (o : Outgoing) : Section → Bytes
  | .parameter => o.parameters
  | .data => o.data

/-- How much of a payload the frames so far have carried. -/
def sent (o : Outgoing) : Section → Nat
  | .parameter => o.parametersSent
  | .data => o.dataSent

/-- What is left when `count` frames have been asked for. -/
def after (o : Outgoing) : (count : Nat) → Outgoing
  | 0 => o
  | count + 1 =>
    match o.next? with
    | none => o
    | some (_, rest) => rest.after count

/-- A request that can send all that it has left. -/
structure Ready (o : Outgoing) : Prop where
  alive : o.failed = false
  small : o.maxBufferSize ≤ 0xFFFF
  total : ∀ part, (o.payload part).length ≤ o.kind.maxTotal
  sent : ∀ part, o.sent part ≤ (o.payload part).length
  first : o.isFirst = true → ∀ part, o.sent part = 0
  room : o.layout.parameterOffset + (if o.isFirst then 0 else 1) ≤ o.maxBufferSize

theorem isFirst_advance (o : Outgoing) (l : Layout) : (o.advance l).isFirst = false := by
  simp [advance, isFirst]

theorem sent_advance (o : Outgoing) (l : Layout) (part : Section) :
    (o.advance l).sent part = o.sent part + l.count part := by cases part <;> rfl

theorem payload_advance (o : Outgoing) (l : Layout) (part : Section) :
    (o.advance l).payload part = o.payload part := by cases part <;> rfl

theorem count_layout_le (o : Outgoing) (part : Section) :
    o.layout.count part ≤ (o.payload part).length - o.sent part := by
  cases part
  · exact o.parameterCount_layout_le
  · exact o.dataCount_layout_le

theorem hasMore_eq_false_of_ready (h : o.Ready) :
    o.hasMore = false ↔ o.isFirst = false ∧ ∀ part, o.sent part = (o.payload part).length := by
  have parts : (∀ part, o.sent part = (o.payload part).length) ↔ o.left = 0 := by
    have parameters : o.parametersSent ≤ o.parameters.length := h.sent .parameter
    have data : o.dataSent ≤ o.data.length := h.sent .data
    unfold left
    constructor
    · intro all
      have parameters : o.parametersSent = o.parameters.length := all .parameter
      have data : o.dataSent = o.data.length := all .data
      omega
    · intro none part
      cases part
      · show o.parametersSent = o.parameters.length
        omega
      · show o.dataSent = o.data.length
        omega
  rw [parts]
  simp [hasMore, isFirst, h.alive]

/-- The words of a continuing frame are shorter than those of a first one. -/
theorem parameterOffset_advance (o : Outgoing) (l : Layout) :
    (o.advance l).layout.parameterOffset + (if o.isFirst then 1 else 0) ≤
      o.layout.parameterOffset := by
  have later : (o.advance l).layout.parameterOffset =
      o.kind.alignment.up (Header.length + 1 + o.kind.secondaryWordsLength + 2) := by
    simp only [layout, Layout.fit, name, bytesStart, isFirst_advance, Bool.false_eq_true, if_false,
      Nat.add_zero]
    rfl
  rw [later]
  cases first : o.isFirst with
  | false =>
    refine Nat.le_of_eq ?_
    simp only [layout, Layout.fit, name, bytesStart, first, Bool.false_eq_true, if_false,
      Nat.add_zero]
  | true =>
    have begins : o.bytesStart ≤ o.layout.parameterOffset :=
      Nat.le_trans (Nat.le_add_right _ _) (o.kind.alignment.le_up _)
    have longer : o.kind.alignment.up (Header.length + 1 + o.kind.secondaryWordsLength + 2) <
        Header.length + 1 + o.kind.primaryWordsLength 0 + 2 := by cases o.kind <;> decide
    simp only [bytesStart, first, if_true, Kind.primaryWordsLength] at begins longer ⊢
    omega

theorem ready_advance (h : o.Ready) : (o.advance o.layout).Ready := by
  have room := h.room
  have less := o.parameterOffset_advance o.layout
  constructor
  case alive => exact h.alive
  case small => exact h.small
  case total =>
    intro part
    rw [payload_advance]
    exact h.total part
  case sent =>
    intro part
    have := h.sent part
    have := o.count_layout_le part
    rw [payload_advance, sent_advance]
    omega
  case first =>
    intro first
    rw [isFirst_advance] at first
    cases first
  case room =>
    rw [isFirst_advance]
    show _ + 1 ≤ o.maxBufferSize
    split at room <;> split at less <;> omega

/-- Nothing stands in the way of a frame. -/
theorem obstacle?_of_ready (h : o.Ready) (more : o.hasMore = true) : o.obstacle? = none := by
  have parameters := h.total .parameter
  have data := h.total .data
  simp only [payload] at parameters data
  cases first : o.isFirst with
  | true => simp [obstacle?, first, Nat.not_lt.mpr parameters, Nat.not_lt.mpr data]
  | false =>
    have room := h.room
    rw [first] at room
    have left : 0 < o.left := by
      simpa [hasMore, h.alive, show o.framesSent ≠ 0 by simpa [isFirst] using first] using more
    have some : 0 < o.layout.parameterCount + o.layout.dataCount := Layout.fit_progress room left
    simp only [obstacle?, first]
    rw [if_neg (by simp), if_neg (by omega)]

theorem next?_of_ready (h : o.Ready) (more : o.hasMore = true) :
    o.next? = some (.ok (o.frame o.layout), o.advance o.layout) := by
  simp only [next?, more, if_true, obstacle?_of_ready h more]

theorem total_frame (h : o.Ready) (l : Layout) (part : Section) :
    (o.frame l).total part = (o.payload part).length := by
  cases part
  · exact Kind.toNat_ofNat (h.total .parameter)
  · exact Kind.toNat_ofNat (h.total .data)

theorem displacement_frame (h : o.Ready) (l : Layout) (part : Section) :
    (o.frame l).displacement part = o.sent part := by
  have small := Nat.le_trans (h.sent part) (h.total part)
  cases part
  · exact Kind.toNat_ofNat small
  · exact Kind.toNat_ofNat small

theorem payload_frame (o : Outgoing) (l : Layout) (part : Section) :
    (o.frame l).payload part = ((o.payload part).drop (o.sent part)).take (l.count part) := by
  cases part <;> rfl

theorem expressible_frame (h : o.Ready) (l : Layout) : (o.frame l).Expressible o.unicode where
  totalParameterCount := Nat.le_trans (Nat.le_of_eq (total_frame h l .parameter)) (h.total _)
  totalDataCount := Nat.le_trans (Nat.le_of_eq (total_frame h l .data)) (h.total _)
  maxParameterCount _ := o.subcommand.maxParameterCount_le
  maxDataCount _ := o.subcommand.maxDataCount_le
  parameterDisplacement _ := Nat.le_trans (Nat.le_of_eq (displacement_frame h l .parameter))
    (Nat.le_trans (h.sent _) (h.total _))
  dataDisplacement _ := Nat.le_trans (Nat.le_of_eq (displacement_frame h l .data))
    (Nat.le_trans (h.sent _) (h.total _))
  words := by
    have few := o.subcommand.length_setup_le
    cases first : o.isFirst with
    | true =>
      simp only [RequestFrame.wordsLength, frame, setup, Kind.primaryWordsLength, first]
      cases o.kind <;> simp <;> omega
    | false =>
      simp only [RequestFrame.wordsLength, frame, first, Bool.not_false, if_true]
      cases o.kind <;> decide
  named := by
    have named := o.subcommand.name_isSome_iff
    cases first : o.isFirst with
    | true => simpa [frame, name, kind, first] using named
    | false => simp [frame, name, first]
  name := by
    intro text member
    simp only [frame, name] at member
    split at member
    · exact o.subcommand.terminable_name o.unicode text member
    · cases member

theorem length_frame (o : Outgoing) :
    (o.frame o.layout).parameters.length = o.layout.parameterCount ∧
      (o.frame o.layout).data.length = o.layout.dataCount := by
  have parameters := o.parameterCount_layout_le
  have data := o.dataCount_layout_le
  simp only [frame, Payload.length_held, List.length_take, List.length_drop]
  omega

theorem bytesStart_frame (o : Outgoing) :
    Header.length + 1 + (o.frame o.layout).wordsLength + 2 = o.bytesStart := by
  unfold RequestFrame.wordsLength bytesStart frame
  cases o.isFirst <;> rfl

/-- Where the words of a frame stand right behind the header, its payloads lie as laid out. -/
theorem offsets_frame (o : Outgoing) :
    (o.frame o.layout).offsets (Header.length + 1) o.unicode =
      ⟨o.layout.parameterOffset, o.layout.dataOffset⟩ := by
  unfold RequestFrame.offsets
  rw [bytesStart_frame, (length_frame o).1]
  rfl

/-- A frame on its own fits the buffer. -/
theorem inside_frame (h : o.Ready) :
    Header.length + 1 + (o.frame o.layout).wordsLength + 2 + ((o.frame o.layout).bytes.bytesAt
      (Header.length + 1 + (o.frame o.layout).wordsLength + 2) o.unicode).length ≤
        o.maxBufferSize := by
  have inside : o.layout.stop ≤ o.maxBufferSize :=
    Layout.stop_fit_le (Nat.le_trans (Nat.le_add_right _ _) h.room) (Nat.le_refl _)
  rw [RequestFrame.length_bytes, offsets_frame, (length_frame o).1, (length_frame o).2]
  exact inside

theorem frames_of_next? {frame : Except Error RequestFrame} {rest : Outgoing}
    (h : o.next? = some (frame, rest)) : o.frames = frame :: rest.frames := by
  rw [frames]
  split
  next none =>
    rw [none] at h
    cases h
  next some =>
    rw [some] at h
    cases h
    rfl

theorem frames_of_finished (h : o.hasMore = false) : o.frames = [] := by
  have none : o.next? = none := by simp [next?, h]
  rw [frames]
  split
  · rfl
  next some =>
    rw [none] at some
    cases some

/-- A frame that cannot be made is the last thing that comes. -/
theorem hasMore_of_error {e : Error} {rest : Outgoing} (h : o.next? = some (.error e, rest)) :
    rest.hasMore = false := by
  simp only [next?] at h
  split at h
  · split at h
    · cases h
      simp [hasMore]
    · cases h
  · cases h

theorem next?_of_frames {frame : Except Error RequestFrame}
    {others : List (Except Error RequestFrame)} (h : o.frames = frame :: others) :
    ∃ rest, o.next? = some (frame, rest) ∧ rest.frames = others := by
  cases more : o.hasMore with
  | false =>
    rw [frames_of_finished more] at h
    cases h
  | true =>
    obtain ⟨⟨first, rest⟩, next⟩ : ∃ pair, o.next? = some pair := by
      simp only [next?, more, if_true]
      cases o.obstacle? <;> exact ⟨_, rfl⟩
    obtain ⟨rfl, rfl⟩ := List.cons.inj ((frames_of_next? next).symm.trans h)
    exact ⟨rest, next, rfl⟩

theorem later_of_error {earlier later : List (Except Error RequestFrame)} {e : Error}
    (h : o.frames = earlier ++ .error e :: later) : later = [] := by
  induction earlier generalizing o with
  | nil =>
    obtain ⟨rest, next, same⟩ := next?_of_frames h
    rw [← same]
    exact frames_of_finished (hasMore_of_error next)
  | cons first others ih =>
    obtain ⟨rest, -, same⟩ := next?_of_frames h
    exact ih same

/-- The states in which a request sends a frame, up to the end. -/
inductive Run : Outgoing → List Outgoing → Prop
  | done {o : Outgoing} (finished : o.hasMore = false) : Run o []
  | step {o : Outgoing} {later : List Outgoing} (more : o.hasMore = true)
      (run : Run (o.advance o.layout) later) : Run o (o :: later)

/-- The frames that are sent in the states of a run. -/
def sending (states : List Outgoing) : List RequestFrame := states.map fun o => o.frame o.layout

theorem exists_run (h : o.Ready) : ∃ states, Run o states := by
  induction bound : o.bound using Nat.strongRecOn generalizing o with
  | ind n ih =>
    cases more : o.hasMore with
    | false => exact ⟨[], .done more⟩
    | true =>
      have less := bound_next?_lt (next?_of_ready h more)
      obtain ⟨later, run⟩ := ih _ (bound ▸ less) (ready_advance h) rfl
      exact ⟨o :: later, .step more run⟩

namespace Run

variable {states : List Outgoing}

theorem frames_eq (run : Run o states) (h : o.Ready) : o.frames = (sending states).map .ok := by
  induction run with
  | done finished => exact frames_of_finished finished
  | step more run ih =>
    rw [frames_of_next? (next?_of_ready h more), ih (ready_advance h)]
    rfl

/-- Nothing but what has been sent changes from frame to frame. -/
theorem constant (run : Run o states) (h : o.Ready) :
    ∀ p ∈ states, p.Ready ∧ p.kind = o.kind ∧ p.unicode = o.unicode ∧
      p.maxBufferSize = o.maxBufferSize ∧ ∀ part, p.payload part = o.payload part := by
  induction run with
  | done finished => nofun
  | @step o later more run ih =>
    intro p member
    rcases List.mem_cons.mp member with rfl | rest
    · exact ⟨h, rfl, rfl, rfl, fun _ => rfl⟩
    · obtain ⟨ready, kind, unicode, size, payload⟩ := ih (ready_advance h) p rest
      exact ⟨ready, kind, unicode, size, fun part =>
        (payload part).trans (payload_advance o o.layout part)⟩

/-- The frames take both payloads from where the request stands on to their ends. -/
theorem tiles (run : Run o states) (h : o.Ready) (part : Section) :
    Tiles (o.payload part) (o.sent part) ((sending states).map (·.piece part)) := by
  induction run with
  | done finished =>
    rw [((hasMore_eq_false_of_ready h).mp finished).2 part]
    exact .done
  | @step o later more run ih =>
    have rest := ih (ready_advance h)
    have inside := o.count_layout_le part
    have sent := h.sent part
    rw [payload_advance, sent_advance] at rest
    have first : (o.frame o.layout).piece part =
        (o.sent part, ((o.payload part).drop (o.sent part)).take (o.layout.count part)) :=
      Prod.ext (displacement_frame h o.layout part) (payload_frame o o.layout part)
    rw [sending, List.map_cons, List.map_cons, first]
    exact .piece (by omega) rest

theorem continuing (run : Run o states) (later : o.isFirst = false) :
    ∀ p ∈ states, p.isFirst = false := by
  induction run with
  | done finished => nofun
  | @step o rest more run ih =>
    intro p member
    rcases List.mem_cons.mp member with rfl | others
    · exact later
    · exact ih (isFirst_advance o o.layout) p others

theorem hasMore_after (run : Run o states) (h : o.Ready) :
    ∀ i ≤ states.length, (o.after i).hasMore = false ↔ i = states.length := by
  induction run with
  | done finished =>
    intro i le
    obtain rfl : i = 0 := Nat.le_zero.mp le
    exact iff_of_true finished rfl
  | @step o rest more run ih =>
    intro i le
    cases i with
    | zero => exact iff_of_false (by simp [after, more]) (by simp)
    | succ i =>
      simp only [after, next?_of_ready h more]
      rw [ih (ready_advance h) i (Nat.le_of_succ_le_succ le), List.length_cons, Nat.succ_inj]

/-- What is read from the frames are the pieces that were sent. -/
theorem pieces_returned (run : Run o states) (h : o.Ready) (start : Nat) (part : Section) :
    ((sending states).map fun f => f.returned start o.unicode).map (·.piece part) =
      (sending states).map (·.piece part) := by
  rw [List.map_map]
  refine List.map_congr_left fun f member => ?_
  obtain ⟨p, inRun, rfl⟩ := List.mem_map.mp member
  have ready := (run.constant h p inRun).1
  have first (primary : (p.frame p.layout).secondary = false) :
      (p.frame p.layout).displacement part = 0 := by
    rw [displacement_frame ready]
    exact ready.first (by simpa [frame] using primary) part
  exact Prod.ext (RequestFrame.displacement_returned start o.unicode first)
    (RequestFrame.payload_returned _ start o.unicode part)

/-- Each frame crosses in a message of its own. -/
theorem crosses (run : Run o states) (h : o.Ready) (config : Config) {header : Header}
    (strings : header.isUnicode = o.unicode) :
    List.Forall₂ (RequestFrame.Crosses config header o.maxBufferSize) (sending states)
      ((sending states).map fun f => f.returned (Header.length + 1) o.unicode) := by
  refine List.forall₂_map_right_iff.mpr (List.forall₂_same.mpr fun f member => ?_)
  obtain ⟨p, inRun, rfl⟩ := List.mem_map.mp member
  obtain ⟨ready, -, unicode, size, -⟩ := run.constant h p inRun
  have shown := expressible_frame ready p.layout
  have fits := inside_frame ready
  rw [unicode, ← strings] at shown
  rw [unicode, ← strings, size] at fits
  rw [← strings]
  exact RequestFrame.crosses_returned config shown h.small fits

end Run

/-- A request that its buffer has room for is ready to be sent. -/
theorem ready_carrying {s : Subcommand} {parameters data : Bytes} {maxBufferSize : Nat}
    {unicode : Bool} {flags : UInt16}
    (total : parameters.length ≤ s.kind.maxTotal ∧ data.length ≤ s.kind.maxTotal)
    (small : maxBufferSize ≤ 0xFFFF)
    (room : ((carrying s parameters data maxBufferSize unicode).withFlags
      flags).layout.parameterOffset ≤ maxBufferSize) :
    ((carrying s parameters data maxBufferSize unicode).withFlags flags).Ready where
  alive := rfl
  small := small
  total part := by
    cases part
    · exact total.1
    · exact total.2
  sent part := by cases part <;> exact Nat.zero_le _
  first _ part := by cases part <;> rfl
  room := room

/-- A request is cut without loss. Whatever its buffer leaves room for comes in a first frame and
continuing ones, each of which crosses in a message of its own, and what is read from them are the
two payloads, piece behind piece. In any case nothing follows a frame that cannot be made. -/
theorem frames_carrying (s : Subcommand) (parameters data : Bytes) (maxBufferSize : Nat)
    (unicode : Bool) (flags : UInt16) :
    let o := (carrying s parameters data maxBufferSize unicode).withFlags flags
    (∀ earlier e later, o.frames = earlier ++ .error e :: later → later = []) ∧
    (parameters.length ≤ s.kind.maxTotal ∧ data.length ≤ s.kind.maxTotal →
      maxBufferSize ≤ 0xFFFF → o.layout.parameterOffset ≤ maxBufferSize →
      ∃ first rest, o.frames = (first :: rest).map .ok ∧
        first.command = s.kind.primary ∧ (∀ f ∈ rest, f.command = s.kind.secondary) ∧
        (∀ i ≤ (first :: rest).length,
          (o.after i).hasMore = false ↔ i = (first :: rest).length) ∧
        ∀ (config : Config) (header : Header), header.isUnicode = unicode →
          ∃ received : List RequestFrame,
            List.Forall₂ (RequestFrame.Crosses config header maxBufferSize) (first :: rest)
              received ∧
            ∀ part, (∀ g ∈ received, g.total part = (o.payload part).length) ∧
              (∀ earlier g later, received = earlier ++ g :: later →
                g.displacement part = (earlier.flatMap (·.payload part)).length) ∧
              received.flatMap (·.payload part) = o.payload part) := by
  intro o
  refine ⟨fun _ _ _ => later_of_error, fun total small room => ?_⟩
  have ready : o.Ready := ready_carrying total small room
  obtain ⟨states, run⟩ := exists_run ready
  cases run with
  | done finished => cases finished
  | @step _ later more rest =>
    have whole : Run o (o :: later) := .step more rest
    have continuing := rest.continuing (isFirst_advance o o.layout)
    have constant := whole.constant ready
    refine ⟨o.frame o.layout, sending later, whole.frames_eq ready, rfl, ?_, ?_, ?_⟩
    · intro f member
      obtain ⟨p, inRun, rfl⟩ := List.mem_map.mp member
      have kind := (constant p (List.mem_cons_of_mem _ inRun)).2.1
      simp only [RequestFrame.command, frame, continuing p inRun, Bool.not_false, if_true, kind]
      rfl
    · have after := whole.hasMore_after ready
      simpa [sending] using after
    · intro config header strings
      refine ⟨_, whole.crosses ready config strings, fun part => ⟨?_, ?_⟩⟩
      · intro g member
        obtain ⟨f, inFrames, rfl⟩ := List.mem_map.mp member
        obtain ⟨p, inRun, rfl⟩ := List.mem_map.mp inFrames
        obtain ⟨readyThere, -, -, -, payload⟩ := constant p inRun
        rw [RequestFrame.total_returned, total_frame readyThere, payload part]
      · have tiles := whole.tiles ready part
        rw [← whole.pieces_returned ready (Header.length + 1) part] at tiles
        have none : o.sent part = 0 := ready.first rfl part
        rw [none] at tiles
        exact RequestFrame.payload_of_tiles tiles

/-- Three bytes for a pipe, and a buffer that the first frame fills with one of them. -/
def threeBytes : Outgoing := start (.pipe ⟨0x4000, [1, 2, 3], 1024⟩) 83 true

theorem frames_carrying_threeBytes :
    ∃ (first : RequestFrame) (rest received : List RequestFrame),
      threeBytes.frames = (first :: rest).map .ok ∧ threeBytes.layout.dataCount = 1 ∧
      List.Forall₂ (RequestFrame.Crosses (Config.standard 0 "")
        { Header.blank with flags2 := HeaderFlags2.unicodeStrings } 83) (first :: rest) received ∧
      received.flatMap (·.payload .data) = [1, 2, 3] := by
  have begins : threeBytes.layout.parameterOffset ≤ 83 ∧ threeBytes.layout.dataCount = 1 := by
    decide +kernel
  obtain ⟨-, whole⟩ := frames_carrying (.pipe ⟨0x4000, [1, 2, 3], 1024⟩) [] [1, 2, 3] 83 true 0
  obtain ⟨first, rest, all, -, -, -, crosses⟩ := whole (by decide) (by decide) begins.1
  obtain ⟨received, each, payloads⟩ := crosses (Config.standard 0 "")
    { Header.blank with flags2 := HeaderFlags2.unicodeStrings } rfl
  exact ⟨first, rest, received, all, begins.2, each, (payloads .data).2.2⟩

end Outgoing

end Smb1.Transaction
