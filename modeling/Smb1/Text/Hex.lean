/-! Fixed-width hexadecimal numbers, as error texts show codes. -/
namespace Smb1.Text

inductive LetterCase
  | lower
  | upper

/-- The last `width` hexadecimal digits of `n`. -/
def hexDigits (letters : LetterCase) : (width : Nat) → (n : Nat) → List Char
  | 0, _ => []
  | width + 1, n =>
    let digit := n % 16
    let first := match letters with
      | .lower => 'a'
      | .upper => 'A'
    let c := if digit < 10 then Char.ofNat ('0'.toNat + digit)
      else Char.ofNat (first.toNat + (digit - 10))
    hexDigits letters width (n / 16) ++ [c]

def hex (letters : LetterCase) (width n : Nat) : String :=
  "0x" ++ String.ofList (hexDigits letters width n)

end Smb1.Text
