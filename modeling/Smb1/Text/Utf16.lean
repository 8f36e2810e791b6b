import Smb1.Bytes
import Smb1.Error

/-! UTF-16, least significant byte first. A character beyond the basic plane takes two units, a
high and a low surrogate; a surrogate without its partner is no text. -/
namespace Smb1.Text.Utf16

def charUnits (c : Char) : List UInt16 :=
  if c.toNat < 0x10000 then [UInt16.ofNat c.toNat]
  else
    let offset := c.toNat - 0x10000
    [UInt16.ofNat (0xD800 + offset / 0x400), UInt16.ofNat (0xDC00 + offset % 0x400)]

def units (text : String) : List UInt16 := text.toList.flatMap charUnits

def isHigh (unit : UInt16) : Bool := 0xD800 ≤ unit && unit < 0xDC00

def isLow (unit : UInt16) : Bool := 0xDC00 ≤ unit && unit < 0xE000

def pair (high low : UInt16) : Char :=
  Char.ofNat (0x10000 + (high.toNat - 0xD800) * 0x400 + (low.toNat - 0xDC00))

/-- The characters of a unit sequence; `none` when a surrogate stands alone. -/
def chars? : List UInt16 → Option (List Char)
  | [] => some []
  | unit :: rest =>
    if isHigh unit then
      match rest with
      | low :: rest => if isLow low then (chars? rest).map (pair unit low :: ·) else none
      | [] => none
    else if isLow unit then none
    else (chars? rest).map (Char.ofNat unit.toNat :: ·)

def decode (units : List UInt16) : Except Error String :=
  match chars? units with
  | some chars => .ok (String.ofList chars)
  | none => .error (.parse .loneSurrogate)

def encode (text : String) : Bytes := (units text).flatMap Word.encode

/-- The units of a byte string; an odd last byte belongs to none. -/
def unitsOf : Bytes → List UInt16
  | low :: high :: rest => Word.decode [low, high] :: unitsOf rest
  | _ => []

end Smb1.Text.Utf16
