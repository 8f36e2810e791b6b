import Smb1.Text.Case.Table

/-! Upper and lower case of whole texts. A character may become several, and a capital sigma
becomes the final form at the end of a word. -/
namespace Smb1.Text

namespace Case

def inRanges (ranges : List (Nat × Nat)) (c : Char) : Bool :=
  ranges.any fun r => r.1 ≤ c.toNat && c.toNat ≤ r.2

def isCased (c : Char) : Bool := inRanges casedRanges c

def isIgnorable (c : Char) : Bool := inRanges ignorableRanges c

def mapRuns (runs : List Run) (c : Char) : Char :=
  match runs.findSome? (·.image? c.toNat) with
  | some n => Char.ofNat n
  | none => c

def upperChar (c : Char) : List Char :=
  match upperExpansions.lookup c.toNat with
  | some expansion => expansion.map Char.ofNat
  | none => [mapRuns upperRuns c]

/-- The dotted capital I keeps its dot as a mark of its own. -/
def lowerChar (c : Char) : List Char :=
  if c.toNat = 0x130 then [Char.ofNat 0x69, Char.ofNat 0x307] else [mapRuns lowerRuns c]

def capitalSigma : Char := Char.ofNat 0x3A3
def smallSigma : Char := Char.ofNat 0x3C3
def finalSigma : Char := Char.ofNat 0x3C2

/-- Whether the first character that is not looked past is a letter with case. -/
def meetsCased (chars : List Char) : Bool :=
  match chars.dropWhile isIgnorable with
  | c :: _ => isCased c
  | [] => false

/-- `before` holds the characters already passed, nearest first. -/
def lowerFrom (before : List Char) : List Char → List Char
  | [] => []
  | c :: rest =>
    let mapped :=
      if c = capitalSigma then
        if meetsCased before && !meetsCased rest then [finalSigma] else [smallSigma]
      else lowerChar c
    mapped ++ lowerFrom (c :: before) rest

end Case

def toUpper (text : String) : String := String.ofList (text.toList.flatMap Case.upperChar)

def toLower (text : String) : String := String.ofList (Case.lowerFrom [] text.toList)

/-- Equal when only the case of the letters of the basic alphabet is ignored. -/
def eqIgnoringAsciiCase (a b : String) : Bool :=
  a.toList.map Char.toLower == b.toList.map Char.toLower

end Smb1.Text
