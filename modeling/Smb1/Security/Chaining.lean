import Smb1.Bytes

/-! Digests of four words that are chained over 64-byte blocks: a message is padded with one bit,
zeros and its length in bits, and each block changes the four words in turn. -/
namespace Smb1.Security

structure Chaining where
  a : UInt32
  b : UInt32
  c : UInt32
  d : UInt32
  deriving DecidableEq, Repr

namespace Chaining

def initial : Chaining := ⟨0x67452301, 0xEFCDAB89, 0x98BADCFE, 0x10325476⟩

def add (x y : Chaining) : Chaining := ⟨x.a + y.a, x.b + y.b, x.c + y.c, x.d + y.d⟩

def bytes (x : Chaining) : Bytes :=
  Word.encode x.a ++ Word.encode x.b ++ Word.encode x.c ++ Word.encode x.d

@[simp] theorem length_bytes (x : Chaining) : x.bytes.length = 16 := by
  simp [bytes, Word.size]

end Chaining

def rotateLeft (x : UInt32) (count : UInt32) : UInt32 := (x <<< count) ||| (x >>> (32 - count))

/-- What a message is followed by to fill whole blocks. -/
def padding (length : Nat) : Bytes :=
  0x80 :: List.replicate ((119 - length % 64) % 64) 0 ++ leBytes 8 (length * 8)

/-- The sixteen words of a block. -/
def blockWords (block : Bytes) : Array UInt32 :=
  ((List.range 16).map fun i => (Word.decode (block.drop (4 * i)) : UInt32)).toArray

/-- Chains `count` blocks. -/
def chainBlocks (compress : Array UInt32 → Chaining → Chaining) :
    (count : Nat) → Bytes → Chaining → Chaining
  | 0, _, state => state
  | count + 1, message, state =>
    let next := state.add (compress (blockWords (message.take 64)) state)
    chainBlocks compress count (message.drop 64) next

def digestWith (compress : Array UInt32 → Chaining → Chaining) (message : Bytes) : Bytes :=
  let padded := message ++ padding message.length
  (chainBlocks compress (padded.length / 64) padded .initial).bytes

@[simp] theorem length_digestWith (compress : Array UInt32 → Chaining → Chaining)
    (message : Bytes) : (digestWith compress message).length = 16 := by
  simp [digestWith]

end Smb1.Security
