import Smb1.Transaction.Layout
import Smb1.Wire.Encoder

/-! One request frame of a transaction: the first, or one that continues it. Offsets are not kept;
they follow from where the words come to lie, so a frame is written correctly alone and behind a
chain link alike. -/
namespace Smb1.Transaction

open Wire

structure RequestFrame where
  kind : Kind
  secondary : Bool
  totalParameterCount : UInt32
  totalDataCount : UInt32
  maxParameterCount : UInt32
  maxDataCount : UInt32
  maxSetupCount : UInt8
  flags : UInt16
  timeout : UInt32
  /-- What an NT transaction is to do. -/
  function : UInt16
  setup : List UInt16
  /-- Only the first frame of the oldest family has a name. -/
  name : Option String
  /-- Only a continuing frame of the second family has a file. -/
  fid : UInt16
  parameterDisplacement : UInt32
  dataDisplacement : UInt32
  parameters : Payload
  data : Payload
  received : Offsets
  deriving DecidableEq, Repr

namespace RequestFrame

/-- An empty frame to read a request into. -/
def blank (kind : Kind) (secondary : Bool) : RequestFrame where
  kind
  secondary
  totalParameterCount := 0
  totalDataCount := 0
  maxParameterCount := 0
  maxDataCount := 0
  maxSetupCount := 0
  flags := 0
  timeout := 0
  function := 0
  setup := []
  name := none
  fid := 0
  parameterDisplacement := 0
  dataDisplacement := 0
  parameters := .held []
  data := .held []
  received := ⟨0, 0⟩

def expecting (command : Command) : Except Error RequestFrame :=
  match Kind.ofCommand? command with
  | some (kind, secondary) => .ok (blank kind secondary)
  | none => .error (.precondition (.notTransaction command))

def command (f : RequestFrame) : Command :=
  if f.secondary then f.kind.secondary else f.kind.primary

def wordsLength (f : RequestFrame) : Nat :=
  if f.secondary then f.kind.secondaryWordsLength else f.kind.primaryWordsLength f.setup.length

/-- Where the payloads come to lie when the words start at `wordsStart`. -/
def offsets (f : RequestFrame) (wordsStart : Nat) (unicode : Bool) : Offsets :=
  let bytesStart := wordsStart + f.wordsLength + 2
  let nameLength := match f.name with
    | some name => stringLength name bytesStart unicode
    | none => 0
  let parameters := f.kind.alignment.up (bytesStart + nameLength)
  ⟨parameters, f.kind.alignment.up (parameters + f.parameters.length)⟩

open Encoder in
def primaryWords (f : RequestFrame) (offsets : Offsets) : Encoder :=
  (if f.kind = .ntTransact then
    u8 f.maxSetupCount ++ u16 0 ++ u32 f.totalParameterCount ++ u32 f.totalDataCount ++
      u32 f.maxParameterCount ++ u32 f.maxDataCount ++
      u32 (UInt32.ofNat f.parameters.length) ++ u32 (UInt32.ofNat offsets.parameters) ++
      u32 (UInt32.ofNat f.data.length) ++ u32 (UInt32.ofNat offsets.data) ++
      u8 (UInt8.ofNat f.setup.length) ++ u16 f.function
  else
    u16 f.totalParameterCount.toUInt16 ++ u16 f.totalDataCount.toUInt16 ++
      u16 f.maxParameterCount.toUInt16 ++ u16 f.maxDataCount.toUInt16 ++
      u8 f.maxSetupCount ++ u8 0 ++ u16 f.flags ++ u32 f.timeout ++ u16 0 ++
      u16 (UInt16.ofNat f.parameters.length) ++ u16 (UInt16.ofNat offsets.parameters) ++
      u16 (UInt16.ofNat f.data.length) ++ u16 (UInt16.ofNat offsets.data) ++
      u8 (UInt8.ofNat f.setup.length) ++ u8 0) ++
    concat (f.setup.map u16)

/-- The eight counts that a continuing frame of any family carries, in order. -/
def secondaryCounts (f : RequestFrame) (offsets : Offsets) : List Nat :=
  [f.totalParameterCount.toNat, f.totalDataCount.toNat, f.parameters.length, offsets.parameters,
    f.parameterDisplacement.toNat, f.data.length, offsets.data, f.dataDisplacement.toNat]

open Encoder in
def secondaryWords (f : RequestFrame) (offsets : Offsets) : Encoder :=
  let counts := f.secondaryCounts offsets
  match f.kind with
  | .ntTransact => zeros 3 ++ concat (counts.map fun n => u32 (UInt32.ofNat n)) ++ u8 0
  | .transaction2 => concat (counts.map fun n => u16 (UInt16.ofNat n)) ++ u16 f.fid
  | .transaction => concat (counts.map fun n => u16 (UInt16.ofNat n))

open Encoder in
def words (f : RequestFrame) : Encoder :=
  positioned fun start unicode =>
    let offsets := f.offsets start unicode
    if f.secondary then f.secondaryWords offsets else f.primaryWords offsets

open Encoder in
def bytes (f : RequestFrame) : Encoder :=
  (match f.name with
    | some name => string name
    | none => ∅) ++
    align f.kind.alignment ++ piece f.parameters.bytes ++
    (if f.data.length = 0 then ∅ else align f.kind.alignment ++ piece f.data.bytes)

open Decoder in
def readPrimaryWords (f : RequestFrame) : Decoder RequestFrame := do
  if f.kind = .ntTransact then
    let maxSetupCount ← u8
    skip 2
    let totalParameterCount ← u32
    let totalDataCount ← u32
    let maxParameterCount ← u32
    let maxDataCount ← u32
    let parameterCount ← u32
    let parameterOffset ← u32
    let dataCount ← u32
    let dataOffset ← u32
    let setupCount ← u8
    let function ← u16
    let setup ← times setupCount.toNat u16
    return { f with
      maxSetupCount, totalParameterCount, totalDataCount, maxParameterCount, maxDataCount,
      function, setup, parameterDisplacement := 0, dataDisplacement := 0
      parameters := .announced parameterCount.toNat, data := .announced dataCount.toNat
      received := ⟨parameterOffset.toNat, dataOffset.toNat⟩ }
  else
    let totalParameterCount ← u16
    let totalDataCount ← u16
    let maxParameterCount ← u16
    let maxDataCount ← u16
    let maxSetupCount ← u8
    skip 1
    let flags ← u16
    let timeout ← u32
    skip 2
    let parameterCount ← u16
    let parameterOffset ← u16
    let dataCount ← u16
    let dataOffset ← u16
    let setupCount ← u8
    skip 1
    let setup ← times setupCount.toNat u16
    return { f with
      totalParameterCount := totalParameterCount.toUInt32
      totalDataCount := totalDataCount.toUInt32
      maxParameterCount := maxParameterCount.toUInt32
      maxDataCount := maxDataCount.toUInt32
      maxSetupCount, flags, timeout, setup, parameterDisplacement := 0, dataDisplacement := 0
      parameters := .announced parameterCount.toNat, data := .announced dataCount.toNat
      received := ⟨parameterOffset.toNat, dataOffset.toNat⟩ }

open Decoder in
/-- A count of a continuing frame, in the width its family uses. -/
def count (kind : Kind) : Decoder UInt32 :=
  if kind = .ntTransact then u32 else UInt16.toUInt32 <$> u16

open Decoder in
def readSecondaryWords (f : RequestFrame) : Decoder RequestFrame := do
  if f.kind = .ntTransact then skip 3
  let totalParameterCount ← count f.kind
  let totalDataCount ← count f.kind
  let parameterCount ← count f.kind
  let parameterOffset ← count f.kind
  let parameterDisplacement ← count f.kind
  let dataCount ← count f.kind
  let dataOffset ← count f.kind
  let dataDisplacement ← count f.kind
  let fid ← if f.kind = .transaction2 then u16 else pure f.fid
  return { f with
    totalParameterCount, totalDataCount, parameterDisplacement, dataDisplacement, fid
    parameters := .announced parameterCount.toNat, data := .announced dataCount.toNat
    received := ⟨parameterOffset.toNat, dataOffset.toNat⟩ }

def readWords (f : RequestFrame) (_ : UInt8) : Decoder RequestFrame :=
  if f.secondary then f.readSecondaryWords else f.readPrimaryWords

open Decoder in
/-- Reads the name, where there is one, and picks the payloads from where the words put them. -/
def readBytes (f : RequestFrame) (byteCount : Nat) : Decoder RequestFrame := do
  let name ← if f.kind = .transaction && !f.secondary then do
      let limit ← ahead byteCount
      some <$> string limit
    else pure f.name
  fun r => do
    let parameters ← payloadAt r f.received.parameters f.parameters.length
    let data ← payloadAt r f.received.data f.data.length
    .ok ({ f with name, parameters := .held parameters, data := .held data }, r)

end RequestFrame

end Smb1.Transaction
