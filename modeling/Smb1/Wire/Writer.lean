import Smb1.Wire.Encoder

/-! A message under construction. It never grows past its capacity: the first piece that does not
fit is refused and leaves what was written before. -/
namespace Smb1.Wire

structure Writer where
  capacity : Nat
  unicode : Bool
  contents : Bytes
  deriving DecidableEq, Repr

namespace Writer

def empty (capacity : Nat) (unicode : Bool) : Writer := ⟨capacity, unicode, []⟩

def position (w : Writer) : Nat := w.contents.length

def remaining (w : Writer) : Nat := w.capacity - w.position

/-- Adds pieces in order up to the first that has no bytes or does not fit. -/
def append (w : Writer) : List Piece → Writer × Except Error Unit
  | [] => (w, .ok ())
  | .refused _ e :: _ => (w, .error e)
  | piece :: pieces =>
    let stop := w.position + piece.length
    if w.capacity < stop then (w, .error (.precondition (.doesNotFit stop w.capacity)))
    else append { w with contents := w.contents ++ piece.bytes } pieces

def put (w : Writer) (e : Encoder) : Writer × Except Error Unit :=
  w.append (e.pieces w.position w.unicode)

def put? (w : Writer) (e : Encoder) : Except Error Writer :=
  match w.put e with
  | (w, .ok ()) => .ok w
  | (_, .error e) => .error e

/-- Adds zeros, as many as a caller asks for. -/
def putZeros (w : Writer) (count : Nat) : Writer × Except Error Unit :=
  match Position.add w.position count with
  | .ok _ => w.put (.zeros count)
  | .error e => (w, .error e)

/-- Adds zeros up to a boundary that a caller asks for. -/
def align (w : Writer) (a : Alignment) : Writer × Except Error Unit :=
  match Position.align a w.position with
  | .ok stop => w.put (.padTo stop)
  | .error e => (w, .error e)

/-- Replaces bytes already written. -/
def patch (w : Writer) (position : Nat) (bytes : Bytes) : Writer × Except Error Unit :=
  match Position.add position bytes.length with
  | .error e => (w, .error e)
  | .ok stop =>
    if w.position < stop then (w, .error (.precondition (.patchOutside position w.position)))
    else
      ({ w with contents := w.contents.take position ++ bytes ++ w.contents.drop stop }, .ok ())

end Writer

end Smb1.Wire
