import Smb1.Transaction.ResponseFrame
import Smb1.Transaction.Subcommand

/-! Collecting the response frames of one transaction. The first frame fixes the totals; every
frame puts its parameters and data at their displacements, never over bytes that are already
there. When both payloads are covered the result is read from them. -/
namespace Smb1.Transaction

/-- Bytes received for one payload, latest first, each with its displacement. -/
structure Stream where
  total : Nat
  fragments : List (Nat × Bytes)
  deriving DecidableEq, Repr

namespace Stream

def empty : Stream := ⟨0, []⟩

def ofTotal (total : Nat) : Stream := ⟨total, []⟩

def whole (bytes : Bytes) : Stream := ⟨bytes.length, [(0, bytes)]⟩

/-- Bytes received so far. -/
def covered (s : Stream) : Nat :=
  s.fragments.foldr (fun fragment rest => fragment.2.length + rest) 0

def isComplete (s : Stream) : Bool := s.covered == s.total

/-- Whether the range from `start` to `stop` meets a fragment. -/
def overlaps (s : Stream) (start stop : Nat) : Bool :=
  s.fragments.any fun (displacement, bytes) =>
    displacement < stop && start < displacement + bytes.length

/-- `bytes` with a fragment put over the bytes at its displacement. -/
def overwrite (bytes : Bytes) (fragment : Nat × Bytes) : Bytes :=
  bytes.take fragment.1 ++ fragment.2 ++ bytes.drop (fragment.1 + fragment.2.length)

/-- The payload, written in the order in which it arrived over zeros. -/
def bytes (s : Stream) : Bytes :=
  s.fragments.foldr (fun fragment bytes => overwrite bytes fragment) (List.replicate s.total 0)

/-- Takes a fragment in. An empty one has to lie within the total and changes nothing. -/
def accept (s : Stream) (part : Section) (displacement : Nat) (fragment : Bytes) :
    Except Error Stream := do
  let stop ← Wire.Position.add displacement fragment.length
  if s.total < stop then .error (.protocol (.fragmentOutside part displacement stop s.total))
  else if fragment.isEmpty then .ok s
  else if s.overlaps displacement stop then
    .error (.protocol (.fragmentOverlap part displacement stop))
  else
    Wire.Buffer.checkCopy s.total displacement stop fragment.length
    discard (Wire.Position.add s.covered fragment.length)
    return { s with fragments := (displacement, fragment) :: s.fragments }

end Stream

structure Reassembly where
  kind : Kind
  result : Result
  setup : List UInt16
  parameters : Stream
  data : Stream
  /-- Frames offered so far, rejected ones included. -/
  frames : Nat
  /-- The last frame read. A frame without parameter words leaves its words in force. -/
  current : ResponseFrame
  deriving DecidableEq, Repr

namespace Reassembly

def start (result : Result) : Reassembly :=
  ⟨result.kind, result, [], .empty, .empty, 0, .blank result.kind⟩

/-- A finished response that carries a result in one frame. -/
def complete (result : Result) (unicode : Bool) : Except Error Reassembly := do
  let parameters := result.parameters
  let data ← result.data unicode
  return { start result with
    parameters := .whole parameters
    data := .whole data
    frames := 1
    current := .complete result.kind [] parameters data }

/-- Every byte of both payloads has arrived. -/
def isComplete (r : Reassembly) : Bool :=
  0 < r.frames && r.parameters.isComplete && r.data.isComplete

/-- Counts a frame. The first one fixes the totals and the setup words. -/
def count (r : Reassembly) (frame : ResponseFrame) : Reassembly :=
  if r.frames = 0 then
    { r with
      parameters := .ofTotal frame.totalParameterCount.toNat
      data := .ofTotal frame.totalDataCount.toNat
      setup := frame.setup
      frames := 1 }
  else { r with frames := r.frames + 1 }

/-- Folds one frame in. The parameters of a frame stay even when its data is rejected. -/
def accept (r : Reassembly) (frame : ResponseFrame) (unicode : Bool) :
    Reassembly × Except Error Unit :=
  if r.isComplete then (r, .error (.protocol .frameAfterCompletion))
  else
    let r := r.count frame
    match r.parameters.accept .parameter frame.parameterDisplacement.toNat frame.parameters.bytes with
    | .error e => (r, .error e)
    | .ok parameters =>
      let r := { r with parameters }
      match r.data.accept .data frame.dataDisplacement.toNat frame.data.bytes with
      | .error e => (r, .error e)
      | .ok data =>
        let r := { r with data }
        if r.isComplete then
          match r.result.read r.parameters.bytes r.data.bytes unicode with
          | .error e => (r, .error e)
          | .ok result => ({ r with result }, .ok ())
        else (r, .ok ())

def command (r : Reassembly) : Command := r.kind.primary

def words (r : Reassembly) : Wire.Encoder := r.current.words

def bytes (r : Reassembly) : Wire.Encoder := r.current.bytes

/-- Starts on a new frame. If its words break off, those before its setup words stay known. -/
def readWords (r : Reassembly) (reader : Wire.Reader) : Reassembly × Except Error Wire.Reader :=
  let blank := ResponseFrame.blank r.kind
  match ResponseFrame.readCounts r.kind reader with
  | .error e => ({ r with current := blank }, .error e)
  | .ok (counts, reader) =>
    match Wire.Decoder.times counts.setupCount.toNat Wire.Decoder.u16 reader with
    | .error e => ({ r with current := blank.withTotals counts }, .error e)
    | .ok (setup, reader) => ({ r with current := blank.withWords counts setup }, .ok reader)

/-- Reads the payloads of the current frame and folds it in. -/
def readBytes (r : Reassembly) (reader : Wire.Reader) : Reassembly × Except Error Wire.Reader :=
  let frame := r.current
  match payloadAt reader frame.received.parameters frame.parameters.length with
  | .error e => (r, .error e)
  | .ok parameters =>
    let frame := { frame with parameters := .held parameters }
    match payloadAt reader frame.received.data frame.data.length with
    | .error e => ({ r with current := frame }, .error e)
    | .ok data =>
      let frame := { frame with data := .held data }
      let (r, outcome) := { r with current := frame }.accept frame reader.unicode
      (r, outcome.map fun _ => reader)

end Reassembly

end Smb1.Transaction
