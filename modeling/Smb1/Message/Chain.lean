import Smb1.Header
import Smb1.Message.Body

/-! Chains: an ordered list of bodies behind one header. Each link that can be followed has a block
that names the next command and says where in the message its word count lies. -/
namespace Smb1.Chain

open Wire

/-- The offset of a link without a successor. It is never followed. -/
def noOffset : UInt16 := 0xDEDE

def noCommand : UInt8 := Command.noAndXCommand.code

/-- Bytes of the chain block. -/
def blockLength : Nat := 4

/-- Whether a body at depth `level` of a chain may carry `successor` in the same frame. -/
def permitted (config : Config) (predecessor : Body) (successor : Command) (level : Nat) : Bool :=
  config.useBatching && predecessor.isAndX &&
    level < (predecessor.batchLimit config successor).toNat

/-- The body that follows in the same frame. An answer repeats the chain of its request, so only
the limits of a request count. -/
def next? (config : Config) (response : Bool) (level : Nat) (b : Body) (rest : List Body) :
    Option Body :=
  match rest with
  | [] => none
  | next :: _ =>
    if b.isAndX && (response || permitted config b next.command level) then some next else none

/-- How many of the bodies from depth `level` on go into one frame. -/
def carried (config : Config) (response : Bool) (level : Nat) : List Body → Nat
  | [] => 0
  | b :: rest =>
    if (next? config response level b rest).isSome then
      carried config response (level + 1) rest + 1
    else 1

/-- One link: word count, chain block, parameter words, byte count and data bytes. The block of a
link that is followed points right behind its own bytes. -/
def link (b : Body) (next : Option Command) : Encoder :=
  ⟨fun start unicode =>
    let blockSize := if b.isAndX then blockLength else 0
    let words := b.words.pieces (start + 1 + blockSize) unicode
    let pad := if (blockSize + size words) % 2 = 0 then [] else [Piece.zeros 1]
    let wordsLength := blockSize + size words + size pad
    let bytes := b.bytes.pieces (start + 1 + wordsLength + 2) unicode
    let stop := start + 1 + wordsLength + 2 + size bytes
    let block := match next with
      | some command => [command.code, 0] ++ Word.encode (UInt16.ofNat stop)
      | none => [noCommand, 0] ++ Word.encode noOffset
    [.held [b.reportedWordCount (UInt8.ofNat (wordsLength / 2))]] ++
      (if b.isAndX then [.held block] else []) ++ words ++ pad ++
      [.held (Word.encode (UInt16.ofNat (size bytes)))] ++ bytes⟩

/-- The links of one frame, from depth `level` on. -/
def encode (config : Config) (response : Bool) (level : Nat) : List Body → Encoder
  | [] => ∅
  | b :: rest =>
    match next? config response level b rest with
    | some next => link b (some next.command) ++ encode config response (level + 1) rest
    | none => link b none

/-- What a link says about the one behind it: its command and where it starts. -/
structure Successor where
  code : UInt8
  offset : Nat
  deriving DecidableEq, Repr

open Decoder in
/-- The chain block. A zero offset means no successor, whatever command stands beside it. -/
def readBlock : Decoder (Option Successor) := do
  let code ← u8
  skip 1
  let offset ← u16
  return if offset = 0 ∨ code = noCommand then none else some ⟨code, offset.toNat⟩

/-- Reads the parameter words and moves behind them. A chained link has words of its own only
behind the two that the block takes. -/
def readLinkWords (b : Body) (start : Nat) (rawCount : UInt8) (reader : Reader) :
    Body × Except Error Reader :=
  let wordCount := UInt8.ofNat (min 255 (rawCount.toNat + (b.wordCountAdjustment rawCount).toNat))
  let hasWords := if b.isAndX then 2 < wordCount else wordCount ≠ 0
  let (b, outcome) := if hasWords then b.readWords wordCount reader else (b, .ok reader)
  (b, outcome >>= (·.seekFrom start (1 + wordCount.toNat * 2)))

/-- Reads the byte count and the data bytes and moves behind them. -/
def readLinkBytes (b : Body) (rawCount : UInt8) (reader : Reader) : Body × Except Error Reader :=
  match Decoder.u16 reader with
  | .error e => (b, .error e)
  | .ok (byteCount, reader) =>
    let byteCount := byteCount.toNat
    let start := reader.position
    let (b, outcome) :=
      if rawCount ≠ 0 ∨ byteCount ≠ 0 then b.readBytes byteCount reader else (b, .ok reader)
    (b, outcome >>= (·.seekFrom start byteCount))

open Decoder in
/-- The raw word count and the chain block of a link. -/
def readLinkHead (b : Body) : Decoder (UInt8 × Option Successor) := do
  let rawCount ← u8
  let successor ← if b.isAndX && rawCount != 0 then readBlock else pure none
  return (rawCount, successor)

/-- Reads one link into its template. -/
def readLink (b : Body) (reader : Reader) : Body × Except Error (Option Successor × Reader) :=
  match readLinkHead b reader with
  | .error e => (b, .error e)
  | .ok ((rawCount, successor), afterHead) =>
    match readLinkWords b reader.position rawCount afterHead with
    | (b, .error e) => (b, .error e)
    | (b, .ok afterWords) =>
      let (b, outcome) := readLinkBytes b rawCount afterWords
      (b, outcome.map (successor, ·))

/-- Reads the chain at the cursor into the templates; the answer is how many links there were. A
failed message ends after its first link. Every successor that is named must have a template of
its own command waiting. -/
def decode (status : UInt32) : List Body → Reader → List Body × Except Error (Nat × Reader)
  | [], _ => ([], .error (.protocol .noTemplate))
  | b :: rest, reader =>
    match readLink b reader with
    | (b, .error e) => (b :: rest, .error e)
    | (b, .ok (none, reader)) => (b :: rest, .ok (1, reader))
    | (b, .ok (some successor, reader)) =>
      if status ≠ 0 then (b :: rest, .ok (1, reader))
      else
        match rest with
        | [] => ([b], .error (.protocol .noTemplate))
        | next :: _ =>
          if next.command.code ≠ successor.code then
            (b :: rest, .error (.protocol (.unexpectedLink successor.code next.command)))
          else
            let (rest, outcome) := decode status rest (reader.seek successor.offset)
            (b :: rest, outcome.map fun (links, reader) => (links + 1, reader))

end Smb1.Chain
