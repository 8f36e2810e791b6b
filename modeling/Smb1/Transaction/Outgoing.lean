import Smb1.Header
import Smb1.Transaction.RequestFrame
import Smb1.Transaction.Subcommand

/-! A transaction request on its way out, frame by frame: one first frame, then as many continuing
frames as the buffer makes necessary. The sequence is finite and ends at the first frame that
cannot be made. -/
namespace Smb1.Transaction

structure Outgoing where
  subcommand : Subcommand
  parameters : Bytes
  data : Bytes
  maxBufferSize : Nat
  unicode : Bool
  flags : UInt16
  parametersSent : Nat
  dataSent : Nat
  framesSent : Nat
  failed : Bool
  deriving DecidableEq, Repr

namespace Outgoing

/-- A request that carries the given payloads under a subcommand's words. -/
def carrying (subcommand : Subcommand) (parameters data : Bytes) (maxBufferSize : Nat)
    (unicode : Bool) : Outgoing :=
  ⟨subcommand, parameters, data, maxBufferSize, unicode, 0, 0, 0, 0, false⟩

def start (subcommand : Subcommand) (maxBufferSize : Nat) (unicode : Bool) : Outgoing :=
  carrying subcommand (subcommand.parameters unicode) subcommand.data maxBufferSize unicode

def withFlags (o : Outgoing) (flags : UInt16) : Outgoing := { o with flags }

def kind (o : Outgoing) : Kind := o.subcommand.kind

/-- Bytes of both payloads that no frame has carried. -/
def left (o : Outgoing) : Nat :=
  (o.parameters.length - o.parametersSent) + (o.data.length - o.dataSent)

/-- Until the first frame is made there is one to come, and afterwards while bytes are left. -/
def hasMore (o : Outgoing) : Bool := !o.failed && (o.framesSent == 0 || 0 < o.left)

def isFirst (o : Outgoing) : Bool := o.framesSent == 0

/-- Setup words go out with the first frame. -/
def setup (o : Outgoing) : List UInt16 := if o.isFirst then o.subcommand.setup else []

def name (o : Outgoing) : Option String := if o.isFirst then o.subcommand.name else none

/-- Where the next frame's bytes begin when it is sent on its own. -/
def bytesStart (o : Outgoing) : Nat :=
  let wordsLength :=
    if o.isFirst then o.kind.primaryWordsLength o.setup.length else o.kind.secondaryWordsLength
  Header.length + 1 + wordsLength + 2

def layout (o : Outgoing) : Layout :=
  let nameLength := match o.name with
    | some name => Wire.stringLength name o.bytesStart o.unicode
    | none => 0
  Layout.fit o.bytesStart nameLength o.kind.alignment o.maxBufferSize
    (o.parameters.length - o.parametersSent) (o.data.length - o.dataSent)

/-- The frame that carries `layout`'s share of what is left. -/
def frame (o : Outgoing) (layout : Layout) : RequestFrame where
  kind := o.kind
  secondary := !o.isFirst
  totalParameterCount := UInt32.ofNat o.parameters.length
  totalDataCount := UInt32.ofNat o.data.length
  maxParameterCount := o.subcommand.maxParameterCount
  maxDataCount := o.subcommand.maxDataCount
  maxSetupCount := 0
  flags := o.flags
  timeout := o.subcommand.timeout
  function := o.subcommand.function
  setup := o.setup
  name := o.name
  fid := o.subcommand.fid
  parameterDisplacement := UInt32.ofNat o.parametersSent
  dataDisplacement := UInt32.ofNat o.dataSent
  parameters := .held ((o.parameters.drop o.parametersSent).take layout.parameterCount)
  data := .held ((o.data.drop o.dataSent).take layout.dataCount)
  received := ⟨0, 0⟩

def advance (o : Outgoing) (layout : Layout) : Outgoing :=
  { o with
    parametersSent := o.parametersSent + layout.parameterCount
    dataSent := o.dataSent + layout.dataCount
    framesSent := o.framesSent + 1 }

/-- What stands in the way of the next frame. -/
def obstacle? (o : Outgoing) : Option Error :=
  let total := o.kind.maxTotal
  if o.isFirst ∧ (total < o.parameters.length ∨ total < o.data.length) then
    some (.precondition (.oversizedTransaction o.kind o.parameters.length o.data.length))
  else if !o.isFirst ∧ o.layout.parameterCount = 0 ∧ o.layout.dataCount = 0 then
    some (.protocol (.noRequestRoom o.maxBufferSize))
  else none

/-- The next frame, or the error in its place, and what is then still to come. -/
def next? (o : Outgoing) : Option (Except Error RequestFrame × Outgoing) :=
  if o.hasMore then
    match o.obstacle? with
    | some e => some (.error e, { o with failed := true })
    | none => some (.ok (o.frame o.layout), o.advance o.layout)
  else none

/-- How many frames can still come, at most. -/
def bound (o : Outgoing) : Nat :=
  if o.hasMore then o.left + (if o.isFirst then 2 else 1) else 0

theorem parameterCount_layout_le (o : Outgoing) :
    o.layout.parameterCount ≤ o.parameters.length - o.parametersSent := Nat.min_le_left ..

theorem dataCount_layout_le (o : Outgoing) :
    o.layout.dataCount ≤ o.data.length - o.dataSent := Nat.min_le_left ..

theorem left_advance (o : Outgoing) : (o.advance o.layout).left =
    o.left - o.layout.parameterCount - o.layout.dataCount := by
  have := o.parameterCount_layout_le
  have := o.dataCount_layout_le
  simp only [left, advance] at *
  omega

/-- Every frame after the first carries something. -/
theorem carries_of_obstacle?_eq_none {o : Outgoing} (later : ¬o.isFirst = true)
    (clear : o.obstacle? = none) : 0 < o.layout.parameterCount + o.layout.dataCount := by
  refine Nat.pos_of_ne_zero fun nothing => ?_
  obtain ⟨parameters, data⟩ := Nat.add_eq_zero_iff.mp nothing
  simp [obstacle?, later, parameters, data] at clear

theorem bound_next?_lt {o rest : Outgoing} {frame : Except Error RequestFrame}
    (h : o.next? = some (frame, rest)) : rest.bound < o.bound := by
  unfold next? at h
  split at h
  next more =>
    have positive : 0 < o.bound := by
      simp only [bound, more, if_true]
      split <;> omega
    split at h
    · cases h
      simpa [bound, hasMore] using positive
    next clear =>
      cases h
      have le : o.layout.parameterCount + o.layout.dataCount ≤ o.left :=
        Nat.add_le_add o.parameterCount_layout_le o.dataCount_layout_le
      have less := left_advance o
      have later : (o.advance o.layout).isFirst = false := by simp [advance, isFirst]
      simp only [bound, more, later, if_true, less, Bool.false_eq_true, if_false]
      by_cases first : o.isFirst = true
      · simp only [first, if_true]
        split <;> omega
      · have carries := carries_of_obstacle?_eq_none first clear
        simp only [first, Bool.false_eq_true, if_false]
        split <;> omega
  · cases h

/-- All frames still to come. -/
def frames (o : Outgoing) : List (Except Error RequestFrame) :=
  match _next : o.next? with
  | none => []
  | some (frame, rest) => frame :: frames rest
termination_by o.bound
decreasing_by exact bound_next?_lt _next

end Outgoing

end Smb1.Transaction
