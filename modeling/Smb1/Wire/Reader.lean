import Smb1.Text.Latin1
import Smb1.Text.Utf16
import Smb1.Wire.Buffer

/-! A cursor over a received message. Reads are checked against the message; moving is not, since a
declared byte count may cover a payload that was delivered elsewhere. -/
namespace Smb1.Wire

structure Reader where
  buffer : Bytes
  position : Nat
  unicode : Bool
  deriving DecidableEq, Repr

namespace Reader

def start (buffer : Bytes) (unicode : Bool) : Reader := ⟨buffer, 0, unicode⟩

def length (r : Reader) : Nat := r.buffer.length

def seek (r : Reader) (position : Nat) : Reader := { r with position }

def skip (r : Reader) (count : Nat) : Reader := r.seek (r.position + count)

/-- The cursor `count` behind `start`, wherever it was. -/
def seekFrom (r : Reader) (start count : Nat) : Except Error Reader :=
  r.seek <$> Position.add start count

theorem seekFrom_eq_ok_iff {r r' : Reader} {start count : Nat} :
    r.seekFrom start count = .ok r' ↔
      r' = r.seek (start + count) ∧ start + count < Position.limit := by
  unfold seekFrom
  by_cases inside : start + count < Position.limit
  · rw [Position.add_eq_ok_iff.mpr ⟨rfl, inside⟩]
    exact ⟨fun moved => ⟨(Except.ok.inj moved).symm, inside⟩, fun moved => by rw [moved.1]; rfl⟩
  · rw [Position.add, if_neg inside]
    exact iff_of_false (fun moved => by cases moved) fun moved => inside moved.2

/-- `count` bytes at a position of their own. -/
def slice (r : Reader) (position count : Nat) : Except Error Bytes :=
  let stop := position + count
  if Position.limit ≤ stop then .error (.protocol .sliceOverflow)
  else if r.length < stop then .error (.tooSmall stop r.length)
  else .ok ((r.buffer.drop position).take count)

/-- The bytes from the cursor on. -/
def rest (r : Reader) : Bytes := r.buffer.drop r.position

end Reader

/-- A step of decoding: a value and the cursor after it, or the error that stopped it. -/
abbrev Decoder := StateT Reader (Except Error)

namespace Reader

/-- The units in the next `room` bytes up to the first null unit, and the cursor behind that. -/
def units : (room : Nat) → Reader → Except Error (List UInt16 × Reader)
  | room + 2, r => do
    let unit ← Buffer.wordAt UInt16 r.buffer r.position
    let r := r.skip 2
    if unit = 0 then return ([], r)
    else
      let (units, r) ← units room r
      return (unit :: units, r)
  | _, r => .ok ([], r)

/-- The next `room` bytes up to the first null byte, and the cursor behind that. -/
def bytes : (room : Nat) → Reader → Except Error (Bytes × Reader)
  | room + 1, r => do
    let byte ← Buffer.byteAt r.buffer r.position
    let r := r.skip 1
    if byte = 0 then return ([], r)
    else
      let (bytes, r) ← bytes room r
      return (byte :: bytes, r)
  | 0, r => .ok ([], r)

/-- How many bytes lie between the cursor and `limit`, or the end of the message before that. -/
def room (r : Reader) (limit : Nat) : Nat := min limit r.length - r.position

end Reader

namespace Decoder

def fail (e : Error) : Decoder α := fun _ => .error e

def position : Decoder Nat := fun r => .ok (r.position, r)

def buffer : Decoder Bytes := fun r => .ok (r.buffer, r)

def seek (position : Nat) : Decoder Unit := fun r => .ok ((), r.seek position)

/-- The position `count` behind the cursor, which may lie behind the message. -/
def ahead (count : Nat) : Decoder Nat := fun r => do
  return (← Position.add r.position count, r)

def skip (count : Nat) : Decoder Unit := do seek (← ahead count)

def align (a : Alignment) : Decoder Unit := fun r => do
  return ((), r.seek (← Position.align a r.position))

/-- The next `count` bytes. -/
def octets (count : Nat) : Decoder (Octets count) := fun r =>
  if h : r.position + count ≤ r.length then
    .ok (⟨r.rest.take count, by
      have : r.buffer.length = r.length := rfl
      simp only [Reader.rest, List.length_take, List.length_drop]; omega⟩, r.skip count)
  else do
    let stop ← Position.add r.position count
    .error (.tooSmall stop r.length)

def take (count : Nat) : Decoder Bytes := Subtype.val <$> octets count

def word (W : Type) [Word W] : Decoder W := Word.decode <$> take (Word.size W)

def u8 : Decoder UInt8 := word UInt8
def u16 : Decoder UInt16 := word UInt16
def u32 : Decoder UInt32 := word UInt32
def u64 : Decoder UInt64 := word UInt64

/-- One step `count` times over, its values in reverse in front of `read`. -/
def repeatOnto (d : Decoder α) : (count : Nat) → (read : List α) → Decoder (List α)
  | 0, read, r => .ok (read, r)
  | count + 1, read, r =>
    match d r with
    | .ok (a, r) => repeatOnto d count (a :: read) r
    | .error e => .error e

/-- The values of one step taken `count` times. -/
def times (count : Nat) (d : Decoder α) : Decoder (List α) := List.reverse <$> repeatOnto d count []

/-- Units up to a null unit, never past `limit`. The cursor moves past them whether or not they
are text. -/
def rawUnits (limit : Nat) : Decoder (List UInt16) := fun r => do
  discard (Position.add r.position 2)
  r.units (r.room limit)

def unicodeString (limit : Nat) : Decoder String := do
  match Text.Utf16.decode (← rawUnits limit) with
  | .ok text => pure text
  | .error e => fail e

def oemString (limit : Nat) : Decoder String := fun r => do
  let (bytes, r) ← r.bytes (r.room limit)
  return (Text.Latin1.decode bytes, r)

def stringUnaligned (limit : Nat) : Decoder String := fun r =>
  if r.unicode then unicodeString limit r else oemString limit r

/-- Units from a two-byte boundary on. -/
def alignedUnits (limit : Nat) : Decoder (List UInt16) := do
  align .two
  rawUnits limit

def alignedString (limit : Nat) : Decoder String := do
  align .two
  unicodeString limit

/-- A null-terminated string in the encoding of the message, aligned if that is Unicode. -/
def string (limit : Nat) : Decoder String := fun r =>
  if r.unicode then alignedString limit r else oemString limit r

/-- A string in which units that are no text read as the empty string. -/
def stringOrEmpty (limit : Nat) : Decoder String := fun r =>
  if r.unicode then do
    let (units, r) ← alignedUnits limit r
    match Text.Utf16.decode units with
    | .ok text => .ok (text, r)
    | .error _ => .ok ("", r)
  else oemString limit r

end Decoder

end Smb1.Wire
