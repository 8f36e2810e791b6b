import Smb1.Header
import Smb1.Transaction.Layout
import Smb1.Wire.Encoder

/-! One response frame of a transaction. All frames of a response carry the code of the request's
first frame; how a payload is cut into frames is the server's business. -/
namespace Smb1.Transaction

open Wire

structure ResponseFrame where
  kind : Kind
  totalParameterCount : UInt32
  totalDataCount : UInt32
  setup : List UInt16
  parameterDisplacement : UInt32
  dataDisplacement : UInt32
  parameters : Payload
  data : Payload
  received : Offsets
  deriving DecidableEq, Repr

namespace ResponseFrame

def blank (kind : Kind) : ResponseFrame :=
  ⟨kind, 0, 0, [], 0, 0, .held [], .held [], ⟨0, 0⟩⟩

/-- The whole payload in one frame. -/
def complete (kind : Kind) (setup : List UInt16) (parameters data : Bytes) : ResponseFrame :=
  { blank kind with
    totalParameterCount := UInt32.ofNat parameters.length
    totalDataCount := UInt32.ofNat data.length
    setup
    parameters := .held parameters
    data := .held data }

/-- The frame that carries `layout`'s share of a payload from the given displacements on. -/
def fragment (kind : Kind) (setup : List UInt16) (parameters data : Bytes)
    (parametersSent dataSent : Nat) (layout : Layout) : ResponseFrame :=
  { blank kind with
    totalParameterCount := UInt32.ofNat parameters.length
    totalDataCount := UInt32.ofNat data.length
    setup
    parameterDisplacement := UInt32.ofNat parametersSent
    dataDisplacement := UInt32.ofNat dataSent
    parameters := .held ((parameters.drop parametersSent).take layout.parameterCount)
    data := .held ((data.drop dataSent).take layout.dataCount) }

/-- The frames from the given displacements on. Every frame but the first carries something, so
as many frames as bytes are left, and one more, are enough. -/
def fragmentsFrom (kind : Kind) (setup : List UInt16) (parameters data : Bytes)
    (maxBufferSize : Nat) : (budget parametersSent dataSent : Nat) → (first : Bool) →
    Except Error (List ResponseFrame)
  | 0, _, _, _ => .ok []
  | budget + 1, parametersSent, dataSent, first =>
    let bytesStart := Header.length + 1 + kind.responseWordsLength setup.length + 2
    let layout := Layout.fit bytesStart 0 kind.alignment maxBufferSize
      (parameters.length - parametersSent) (data.length - dataSent)
    let finished := parameters.length ≤ parametersSent + layout.parameterCount ∧
      data.length ≤ dataSent + layout.dataCount
    if !first ∧ layout.parameterCount = 0 ∧ layout.dataCount = 0 ∧ ¬finished then
      .error (.protocol .noResponseRoom)
    else
      let frame := fragment kind setup parameters data parametersSent dataSent layout
      if finished then .ok [frame]
      else do
        let rest ← fragmentsFrom kind setup parameters data maxBufferSize budget
          (parametersSent + layout.parameterCount) (dataSent + layout.dataCount) false
        .ok (frame :: rest)

/-- The frames in which a server bounded by `maxBufferSize` sends a payload, each standing alone
after the header. -/
def fragments (kind : Kind) (setup : List UInt16) (parameters data : Bytes)
    (maxBufferSize : Nat) : Except Error (List ResponseFrame) :=
  fragmentsFrom kind setup parameters data maxBufferSize
    (parameters.length + data.length + 2) 0 0 true

def command (f : ResponseFrame) : Command := f.kind.primary

/-- Where the payloads come to lie when the words start at `wordsStart`. -/
def offsets (f : ResponseFrame) (wordsStart : Nat) : Offsets :=
  let bytesStart := wordsStart + f.kind.responseWordsLength f.setup.length + 2
  let parameters := f.kind.alignment.up bytesStart
  ⟨parameters, f.kind.alignment.up (parameters + f.parameters.length)⟩

open Encoder in
/-- The words before the setup words. -/
def countWords (f : ResponseFrame) (offsets : Offsets) : Encoder :=
  let totals := [f.totalParameterCount.toNat, f.totalDataCount.toNat]
  let counts := [f.parameters.length, offsets.parameters, f.parameterDisplacement.toNat,
    f.data.length, offsets.data, f.dataDisplacement.toNat]
  if f.kind = .ntTransact then
    zeros 3 ++ concat ((totals ++ counts).map fun n => u32 (UInt32.ofNat n)) ++
      u8 (UInt8.ofNat f.setup.length)
  else
    concat (totals.map fun n => u16 (UInt16.ofNat n)) ++ u16 0 ++
      concat (counts.map fun n => u16 (UInt16.ofNat n)) ++
      u8 (UInt8.ofNat f.setup.length) ++ u8 0

open Encoder in
def words (f : ResponseFrame) : Encoder :=
  positioned fun start _ => f.countWords (f.offsets start) ++ concat (f.setup.map u16)

open Encoder in
def bytes (f : ResponseFrame) : Encoder :=
  align f.kind.alignment ++ piece f.parameters.bytes ++
    (if f.data.length = 0 then ∅ else align f.kind.alignment ++ piece f.data.bytes)

/-- What the words of a received frame say before its setup words. -/
structure Counts where
  totalParameters : UInt32
  totalData : UInt32
  parameterCount : UInt32
  parameterOffset : UInt32
  parameterDisplacement : UInt32
  dataCount : UInt32
  dataOffset : UInt32
  dataDisplacement : UInt32
  setupCount : UInt8
  deriving DecidableEq, Repr

open Decoder in
def readCounts (kind : Kind) : Decoder Counts := do
  if kind = .ntTransact then
    skip 3
    let totalParameters ← u32
    let totalData ← u32
    let parameterCount ← u32
    let parameterOffset ← u32
    let parameterDisplacement ← u32
    let dataCount ← u32
    let dataOffset ← u32
    let dataDisplacement ← u32
    let setupCount ← u8
    return ⟨totalParameters, totalData, parameterCount, parameterOffset, parameterDisplacement,
      dataCount, dataOffset, dataDisplacement, setupCount⟩
  else
    let totalParameters ← u16
    let totalData ← u16
    skip 2
    let parameterCount ← u16
    let parameterOffset ← u16
    let parameterDisplacement ← u16
    let dataCount ← u16
    let dataOffset ← u16
    let dataDisplacement ← u16
    let setupCount ← u8
    skip 1
    return ⟨totalParameters.toUInt32, totalData.toUInt32, parameterCount.toUInt32,
      parameterOffset.toUInt32, parameterDisplacement.toUInt32, dataCount.toUInt32,
      dataOffset.toUInt32, dataDisplacement.toUInt32, setupCount⟩

/-- The frame with its totals and displacements known, and nothing else. -/
def withTotals (f : ResponseFrame) (c : Counts) : ResponseFrame :=
  { f with
    totalParameterCount := c.totalParameters
    totalDataCount := c.totalData
    parameterDisplacement := c.parameterDisplacement
    dataDisplacement := c.dataDisplacement }

/-- The frame with all its words known. -/
def withWords (f : ResponseFrame) (c : Counts) (setup : List UInt16) : ResponseFrame :=
  { f.withTotals c with
    setup
    parameters := .announced c.parameterCount.toNat
    data := .announced c.dataCount.toNat
    received := ⟨c.parameterOffset.toNat, c.dataOffset.toNat⟩ }

def readWords (f : ResponseFrame) (_ : UInt8) : Decoder ResponseFrame := do
  let counts ← readCounts f.kind
  let setup ← Decoder.times counts.setupCount.toNat Decoder.u16
  return f.withWords counts setup

def readBytes (f : ResponseFrame) (_ : Nat) : Decoder ResponseFrame := fun r => do
  let parameters ← payloadAt r f.received.parameters f.parameters.length
  let data ← payloadAt r f.received.data f.data.length
  .ok ({ f with parameters := .held parameters, data := .held data }, r)

end ResponseFrame

end Smb1.Transaction
