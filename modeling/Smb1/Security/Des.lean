import Smb1.Bytes
import Smb1.Error

/-! The DES block cipher, under keys of seven bytes. Bits of a word are counted from the left. -/
namespace Smb1.Security.Des

/-- The key bits that the schedule starts from. -/
def keyChoice : List Nat := [
  57, 49, 41, 33, 25, 17, 9, 1, 58, 50, 42, 34, 26, 18,
  10, 2, 59, 51, 43, 35, 27, 19, 11, 3, 60, 52, 44, 36,
  63, 55, 47, 39, 31, 23, 15, 7, 62, 54, 46, 38, 30, 22,
  14, 6, 61, 53, 45, 37, 29, 21, 13, 5, 28, 20, 12, 4]

/-- The bits of the rotated key that make a round key. -/
def roundKeyChoice : List Nat := [
  14, 17, 11, 24, 1, 5, 3, 28, 15, 6, 21, 10,
  23, 19, 12, 4, 26, 8, 16, 7, 27, 20, 13, 2,
  41, 52, 31, 37, 47, 55, 30, 40, 51, 45, 33, 48,
  44, 49, 39, 56, 34, 53, 46, 42, 50, 36, 29, 32]

/-- The order of the bits before the first round. -/
def initialOrder : List Nat := [
  58, 50, 42, 34, 26, 18, 10, 2, 60, 52, 44, 36, 28, 20, 12, 4,
  62, 54, 46, 38, 30, 22, 14, 6, 64, 56, 48, 40, 32, 24, 16, 8,
  57, 49, 41, 33, 25, 17, 9, 1, 59, 51, 43, 35, 27, 19, 11, 3,
  61, 53, 45, 37, 29, 21, 13, 5, 63, 55, 47, 39, 31, 23, 15, 7]

/-- The order of the bits after the last round. -/
def finalOrder : List Nat := [
  40, 8, 48, 16, 56, 24, 64, 32, 39, 7, 47, 15, 55, 23, 63, 31,
  38, 6, 46, 14, 54, 22, 62, 30, 37, 5, 45, 13, 53, 21, 61, 29,
  36, 4, 44, 12, 52, 20, 60, 28, 35, 3, 43, 11, 51, 19, 59, 27,
  34, 2, 42, 10, 50, 18, 58, 26, 33, 1, 41, 9, 49, 17, 57, 25]

/-- The half block widened to the round key. -/
def expansion : List Nat := [
  32, 1, 2, 3, 4, 5, 4, 5, 6, 7, 8, 9,
  8, 9, 10, 11, 12, 13, 12, 13, 14, 15, 16, 17,
  16, 17, 18, 19, 20, 21, 20, 21, 22, 23, 24, 25,
  24, 25, 26, 27, 28, 29, 28, 29, 30, 31, 32, 1]

/-- The order of the bits that leave the substitution. -/
def spread : List Nat := [
  16, 7, 20, 21, 29, 12, 28, 17, 1, 15, 23, 26, 5, 18, 31, 10,
  2, 8, 24, 14, 32, 27, 3, 9, 19, 13, 30, 6, 22, 11, 4, 25]

/-- For six bits the outer two choose the row and the inner four the column. -/
def substitutions : List (Array Nat) := [
  #[14, 4, 13, 1, 2, 15, 11, 8, 3, 10, 6, 12, 5, 9, 0, 7,
    0, 15, 7, 4, 14, 2, 13, 1, 10, 6, 12, 11, 9, 5, 3, 8,
    4, 1, 14, 8, 13, 6, 2, 11, 15, 12, 9, 7, 3, 10, 5, 0,
    15, 12, 8, 2, 4, 9, 1, 7, 5, 11, 3, 14, 10, 0, 6, 13],
  #[15, 1, 8, 14, 6, 11, 3, 4, 9, 7, 2, 13, 12, 0, 5, 10,
    3, 13, 4, 7, 15, 2, 8, 14, 12, 0, 1, 10, 6, 9, 11, 5,
    0, 14, 7, 11, 10, 4, 13, 1, 5, 8, 12, 6, 9, 3, 2, 15,
    13, 8, 10, 1, 3, 15, 4, 2, 11, 6, 7, 12, 0, 5, 14, 9],
  #[10, 0, 9, 14, 6, 3, 15, 5, 1, 13, 12, 7, 11, 4, 2, 8,
    13, 7, 0, 9, 3, 4, 6, 10, 2, 8, 5, 14, 12, 11, 15, 1,
    13, 6, 4, 9, 8, 15, 3, 0, 11, 1, 2, 12, 5, 10, 14, 7,
    1, 10, 13, 0, 6, 9, 8, 7, 4, 15, 14, 3, 11, 5, 2, 12],
  #[7, 13, 14, 3, 0, 6, 9, 10, 1, 2, 8, 5, 11, 12, 4, 15,
    13, 8, 11, 5, 6, 15, 0, 3, 4, 7, 2, 12, 1, 10, 14, 9,
    10, 6, 9, 0, 12, 11, 7, 13, 15, 1, 3, 14, 5, 2, 8, 4,
    3, 15, 0, 6, 10, 1, 13, 8, 9, 4, 5, 11, 12, 7, 2, 14],
  #[2, 12, 4, 1, 7, 10, 11, 6, 8, 5, 3, 15, 13, 0, 14, 9,
    14, 11, 2, 12, 4, 7, 13, 1, 5, 0, 15, 10, 3, 9, 8, 6,
    4, 2, 1, 11, 10, 13, 7, 8, 15, 9, 12, 5, 6, 3, 0, 14,
    11, 8, 12, 7, 1, 14, 2, 13, 6, 15, 0, 9, 10, 4, 5, 3],
  #[12, 1, 10, 15, 9, 2, 6, 8, 0, 13, 3, 4, 14, 7, 5, 11,
    10, 15, 4, 2, 7, 12, 9, 5, 6, 1, 13, 14, 0, 11, 3, 8,
    9, 14, 15, 5, 2, 8, 12, 3, 7, 0, 4, 10, 1, 13, 11, 6,
    4, 3, 2, 12, 9, 5, 15, 10, 11, 14, 1, 7, 6, 0, 8, 13],
  #[4, 11, 2, 14, 15, 0, 8, 13, 3, 12, 9, 7, 5, 10, 6, 1,
    13, 0, 11, 7, 4, 9, 1, 10, 14, 3, 5, 12, 2, 15, 8, 6,
    1, 4, 11, 13, 12, 3, 7, 14, 10, 15, 6, 8, 0, 5, 9, 2,
    6, 11, 13, 8, 1, 4, 10, 7, 9, 5, 0, 15, 14, 2, 3, 12],
  #[13, 2, 8, 4, 6, 15, 11, 1, 10, 9, 3, 14, 5, 0, 12, 7,
    1, 15, 13, 8, 10, 3, 7, 4, 12, 5, 6, 11, 0, 14, 9, 2,
    7, 11, 4, 1, 9, 12, 14, 2, 0, 6, 10, 13, 15, 3, 5, 8,
    2, 1, 14, 7, 4, 10, 8, 13, 15, 12, 9, 0, 3, 5, 6, 11]]

def rotations : List Nat := [1, 1, 2, 2, 2, 2, 2, 2, 1, 2, 2, 2, 2, 2, 2, 1]

/-- The bits of `x`, a word of `width` bits, that a table names. -/
def select (table : List Nat) (width x : Nat) : Nat :=
  table.foldl (fun bits index => 2 * bits + (x >>> (width - index)) % 2) 0

def rotateLeft28 (count x : Nat) : Nat := (x <<< count) % (1 <<< 28) + x >>> (28 - count)

/-- The round keys made by the remaining rotations from the two halves of the key. -/
def roundKeysFrom (left right : Nat) : (rotations : List Nat) → List Nat
  | [] => []
  | count :: rest =>
    let left := rotateLeft28 count left
    let right := rotateLeft28 count right
    select roundKeyChoice 56 (left <<< 28 + right) :: roundKeysFrom left right rest

def roundKeys (key : Nat) : List Nat :=
  let chosen := select keyChoice 64 key
  roundKeysFrom (chosen >>> 28) (chosen % (1 <<< 28)) rotations

def substitute (bits : Nat) (table : Array Nat) : Nat :=
  let row := bits / 32 * 2 + bits % 2
  table.getD (row * 16 + bits / 2 % 16) 0

def feistel (half roundKey : Nat) : Nat :=
  let mixed := select expansion 32 half ^^^ roundKey
  let (bits, _) := substitutions.foldl
    (fun (bits, index) table =>
      (16 * bits + substitute ((mixed >>> (42 - 6 * index)) % 64) table, index + 1))
    (0, 0)
  select spread 32 bits

def encryptBlock (key block : Nat) : Nat :=
  let start := select initialOrder 64 block
  let (left, right) := (roundKeys key).foldl
    (fun (left, right) roundKey => (right, left ^^^ feistel right roundKey))
    (start >>> 32, start % (1 <<< 32))
  select finalOrder 64 (right <<< 32 + left)

/-- The number whose base-256 digits are the bytes, most significant first. -/
def beNat (bytes : Bytes) : Nat := bytes.foldl (fun n b => 256 * n + b.toNat) 0

def beBytes (n : Nat) : Bytes := (leBytes 8 n).reverse

/-- Seven bytes as eight, with seven key bits each in front of a parity bit of zero. -/
def spreadKey (key : Bytes) : Nat :=
  let bits := beNat key
  (List.range 8).foldl (fun n i => 256 * n + 2 * ((bits >>> (49 - 7 * i)) % 128)) 0

/-- One block under a key of seven bytes. -/
def encrypt (key block : Bytes) : Except Error Bytes :=
  if key.length = 7 ∧ block.length = 8 then
    .ok (beBytes (encryptBlock (spreadKey key) (beNat block)))
  else .error (.crypto .keyLength)

/-- One block under each third of a key of sixteen bytes that zeros fill to twenty-one. -/
def encryptLong (key block : Bytes) : Except Error Bytes :=
  if key.length = 16 ∧ block.length = 8 then do
    let key := key ++ List.replicate 5 0
    let first ← encrypt (key.take 7) block
    let second ← encrypt ((key.drop 7).take 7) block
    let third ← encrypt (key.drop 14) block
    .ok (first ++ second ++ third)
  else .error (.crypto .keyLength)

end Smb1.Security.Des
