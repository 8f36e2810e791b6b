import Smb1.Bytes

/-! Single-byte text: one byte for each of the first 256 characters. -/
namespace Smb1.Text.Latin1

/-- A character without a byte of its own becomes a question mark. -/
def charByte (c : Char) : UInt8 := if c.toNat < 0x100 then UInt8.ofNat c.toNat else 0x3F

def encode (text : String) : Bytes := text.toList.map charByte

def decode (bytes : Bytes) : String := String.ofList (bytes.map fun b => Char.ofNat b.toNat)

end Smb1.Text.Latin1
