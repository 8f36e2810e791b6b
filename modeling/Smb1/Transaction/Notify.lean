import Smb1.Flags
import Smb1.Text.Utf16
import Smb1.Wire.Buffer

/-! Watching a directory. The changes come as records, each naming its distance to the next one;
distances are multiples of four and the last record names none. -/
namespace Smb1.Transaction

abbrev CompletionFilter := Flags UInt32 0xFFF

structure NotifyRequest where
  fid : UInt16
  completionFilter : CompletionFilter
  watchTree : Bool
  maxParameterCount : UInt32
  deriving DecidableEq, Repr

namespace NotifyRequest

def standardMaxParameterCount : UInt32 := 4096

def function : UInt16 := 0x04

def setup (r : NotifyRequest) : List UInt16 :=
  [r.completionFilter.bits.toUInt16, (r.completionFilter.bits >>> 16).toUInt16, r.fid,
    if r.watchTree then 1 else 0]

/-- The request that setup words describe. Only the low byte of the last word counts. -/
def ofSetup : List UInt16 → Except Error NotifyRequest
  | [low, high, fid, watchTree] =>
    .ok ⟨fid, ⟨low.toUInt32 ||| (high.toUInt32 <<< 16)⟩, watchTree &&& 0xFF != 0,
      standardMaxParameterCount⟩
  | words => .error (.parse (.notifySetup words.length))

end NotifyRequest

inductive FileAction
  | added
  | removed
  | modified
  | renamedOldName
  | renamedNewName
  deriving DecidableEq, Repr

namespace FileAction

def all : List FileAction := [.added, .removed, .modified, .renamedOldName, .renamedNewName]

def code : FileAction → UInt32
  | .added => 1
  | .removed => 2
  | .modified => 3
  | .renamedOldName => 4
  | .renamedNewName => 5

def name : FileAction → String
  | .added => "Added"
  | .removed => "Removed"
  | .modified => "Modified"
  | .renamedOldName => "RenamedOldName"
  | .renamedNewName => "RenamedNewName"

def ofCode? (code : UInt32) : Option FileAction := all.find? (·.code == code)

@[simp] theorem ofCode?_code (a : FileAction) : ofCode? a.code = some a := by cases a <;> decide

end FileAction

/-- One change in a watched directory. -/
structure Change where
  action : FileAction
  fileName : String
  deriving DecidableEq, Repr

namespace Change

/-- Bytes of a record before its name: distance, action and length of the name. -/
def headLength : Nat := 12

/-- A record, padded to the next one unless it is the last. -/
def encodeRecord (last : Bool) (c : Change) : Bytes :=
  let name := Text.Utf16.encode c.fileName
  let length := Alignment.four.up (headLength + name.length)
  let next : UInt32 := if last then 0 else UInt32.ofNat length
  Word.encode next ++ Word.encode c.action.code ++ Word.encode (UInt32.ofNat name.length) ++
    name ++ (if next = 0 then [] else List.replicate (length - (headLength + name.length)) 0)

def encodeAll : List Change → Bytes
  | [] => []
  | [c] => encodeRecord true c
  | c :: rest => encodeRecord false c ++ encodeAll rest

/-- The record at `position`, and the distance it names. -/
def recordAt (parameters : Bytes) (position : Nat) : Except Error (Change × UInt32) := do
  let record ← Wire.Buffer.between parameters position parameters.length
  if record.length < headLength then throw (.parse .truncatedChange)
  let next : UInt32 := Word.decode record
  let code : UInt32 := Word.decode (record.drop 4)
  let nameLength := (Word.decode (record.drop 8) : UInt32).toNat
  let name := record.drop headLength
  if name.length < nameLength then
    throw (.tooSmall (← Wire.Position.add position (headLength + nameLength)) parameters.length)
  let units := Text.Utf16.unitsOf (← Wire.Buffer.between name 0 nameLength)
  match FileAction.ofCode? code with
  | none => throw (.parse (.unknownAction code))
  | some action =>
    let fileName ← Text.Utf16.decode units
    return (⟨action, fileName⟩, next)

/-- The changes from `position` on, after those in `read`, latest first. -/
def decodeFrom (parameters : Bytes) (position : Nat) (read : List Change) :
    Except Error (List Change) :=
  if position < parameters.length then
    match recordAt parameters position with
    | .error e => .error e
    | .ok (change, next) =>
      if next = 0 then .ok (change :: read).reverse
      else if next % 4 ≠ 0 then .error (.protocol (.misalignedChange next))
      else
        match _sum : Wire.Position.add position next.toNat with
        | .error e => .error e
        | .ok position => decodeFrom parameters position (change :: read)
  else .ok read.reverse
termination_by parameters.length - position
decreasing_by
  have forward : next.toNat ≠ 0 := fun h => ‹¬next = 0› (UInt32.toNat_inj.1 h)
  have stop := (Wire.Position.add_eq_ok_iff.mp _sum).1
  omega

/-- No parameters at all mean that changes were lost, and read as no changes. -/
def decodeAll (parameters : Bytes) : Except Error (List Change) := decodeFrom parameters 0 []

end Change

end Smb1.Transaction
