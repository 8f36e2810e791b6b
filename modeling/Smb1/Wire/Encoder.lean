import Smb1.Text.Latin1
import Smb1.Text.Utf16
import Smb1.Time
import Smb1.Wire.Position

/-! What is written for a value, as a function of where it is written. Strings and payloads are
padded to boundaries that count from the start of the header, so the position matters; the room
that is left does not. `Writer` holds the pieces against a capacity. -/
namespace Smb1.Wire

/-- One field on its way into a message. It is written whole or not at all. -/
inductive Piece
  | held (bytes : Bytes)
  | zeros (count : Nat)
  /-- A field of `width` bytes whose value they cannot show. Writing stops here with the error. -/
  | refused (width : Nat) (error : Error)
  deriving DecidableEq, Repr

namespace Piece

def length : Piece → Nat
  | held bytes => bytes.length
  | zeros count => count
  | refused width _ => width

def bytes : Piece → Bytes
  | held bytes => bytes
  | zeros count => List.replicate count 0
  | refused width _ => List.replicate width 0

@[simp] theorem length_bytes (p : Piece) : p.bytes.length = p.length := by
  cases p <;> simp [bytes, length]

end Piece

/-- The pieces written from a position on. -/
structure Encoder where
  pieces : (start : Nat) → (unicode : Bool) → List Piece

def size (pieces : List Piece) : Nat :=
  pieces.foldr (fun piece rest => piece.length + rest) 0

theorem size_eq_length_flatMap (pieces : List Piece) :
    size pieces = (pieces.flatMap Piece.bytes).length := by
  induction pieces with
  | nil => rfl
  | cons piece rest ih => simpa [size] using ih

namespace Encoder

def bytesAt (e : Encoder) (start : Nat) (unicode : Bool) : Bytes :=
  (e.pieces start unicode).flatMap Piece.bytes

def empty : Encoder := ⟨fun _ _ => []⟩

instance : EmptyCollection Encoder := ⟨empty⟩

instance : Inhabited Encoder := ⟨empty⟩

def append (a b : Encoder) : Encoder :=
  ⟨fun start unicode =>
    let first := a.pieces start unicode
    first ++ b.pieces (start + size first) unicode⟩

instance : Append Encoder := ⟨append⟩

/-- An encoder that looks at where it starts and how strings are written. -/
def positioned (f : (start : Nat) → (unicode : Bool) → Encoder) : Encoder :=
  ⟨fun start unicode => (f start unicode).pieces start unicode⟩

def concat (encoders : List Encoder) : Encoder := encoders.foldr append empty

def ofPiece (p : Piece) : Encoder := ⟨fun _ _ => [p]⟩

def piece (bytes : Bytes) : Encoder := ofPiece (.held bytes)

def u8 (w : UInt8) : Encoder := piece (Word.encode w)
def u16 (w : UInt16) : Encoder := piece (Word.encode w)
def u32 (w : UInt32) : Encoder := piece (Word.encode w)
def u64 (w : UInt64) : Encoder := piece (Word.encode w)

/-- A file time, where the format has one. -/
def fileTime (millis : Int) : Encoder :=
  match Time.toFileTime millis with
  | .ok ticks => u64 ticks
  | .error e => ofPiece (.refused 8 e)

def zeros (count : Nat) : Encoder := ofPiece (.zeros count)

/-- Zeros up to `position`, and nothing from there on. -/
def padTo (position : Nat) : Encoder :=
  positioned fun start _ => if start < position then zeros (position - start) else empty

def align (a : Alignment) : Encoder := positioned fun start _ => padTo (a.up start)

def utf16 (text : String) : Encoder := piece (Text.Utf16.encode text) ++ u16 0

def unicodeString (text : String) : Encoder := align .two ++ utf16 text

def oemString (text : String) : Encoder := piece (Text.Latin1.encode text) ++ u8 0

/-- A null-terminated string in the encoding the message uses. -/
def string (text : String) : Encoder :=
  positioned fun _ unicode => if unicode then unicodeString text else oemString text

/-- The same without padding in front. -/
def stringUnaligned (text : String) : Encoder :=
  positioned fun _ unicode => if unicode then utf16 text else oemString text

@[simp] theorem bytesAt_append (a b : Encoder) (start : Nat) (unicode : Bool) :
    (a ++ b).bytesAt start unicode =
      a.bytesAt start unicode ++ b.bytesAt (start + (a.bytesAt start unicode).length) unicode := by
  show (append a b).bytesAt start unicode = _
  simp [append, bytesAt, size_eq_length_flatMap]

@[simp] theorem bytesAt_piece (bytes : Bytes) (start : Nat) (unicode : Bool) :
    (piece bytes).bytesAt start unicode = bytes := by
  simp [bytesAt, piece, ofPiece, Piece.bytes]

end Encoder

/-- Bytes that a null-terminated string takes when it is written at `position`. -/
def stringLength (text : String) (position : Nat) (unicode : Bool) : Nat :=
  if unicode then
    (Alignment.two.up position - position) + ((Text.Utf16.units text).length + 1) * 2
  else (Text.Latin1.encode text).length + 1

/-- The same at any number that is a position. -/
def stringLength? (text : String) (position : Nat) (unicode : Bool) : Except Error Nat := do
  if unicode then discard (Position.align .two position)
  return stringLength text position unicode

end Smb1.Wire
