import Smb1.Security.Chaining

/-! The MD4 digest. -/
namespace Smb1.Security.Md4

/-- The order in which each round takes the words of a block. -/
def order : Array Nat := #[
  0, 1, 2, 3, 4, 5, 6, 7, 8, 9, 10, 11, 12, 13, 14, 15,
  0, 4, 8, 12, 1, 5, 9, 13, 2, 6, 10, 14, 3, 7, 11, 15,
  0, 8, 4, 12, 2, 10, 6, 14, 1, 9, 5, 13, 3, 11, 7, 15]

def shifts : Array UInt32 := #[3, 7, 11, 19, 3, 5, 9, 13, 3, 9, 11, 15]

def step (words : Array UInt32) (s : Chaining) (i : Nat) : Chaining :=
  let (mixed, constant) : UInt32 × UInt32 := match i / 16 with
    | 0 => ((s.b &&& s.c) ||| (~~~s.b &&& s.d), 0)
    | 1 => ((s.b &&& s.c) ||| (s.b &&& s.d) ||| (s.c &&& s.d), 0x5A827999)
    | _ => (s.b ^^^ s.c ^^^ s.d, 0x6ED9EBA1)
  let sum := s.a + mixed + words.getD (order.getD i 0) 0 + constant
  ⟨s.d, rotateLeft sum (shifts.getD (4 * (i / 16) + i % 4) 0), s.b, s.c⟩

def compress (words : Array UInt32) (s : Chaining) : Chaining :=
  (List.range 48).foldl (step words) s

def digest (message : Bytes) : Bytes := digestWith compress message

end Smb1.Security.Md4
