import Smb1.Transaction.Kind
import Smb1.Wire.Payload
import Smb1.Wire.Reader

/-! Where a frame's parameters and data lie, and how much of each a buffer takes. -/
namespace Smb1.Transaction

structure Layout where
  parameterOffset : Nat
  parameterCount : Nat
  dataOffset : Nat
  dataCount : Nat
  deriving DecidableEq, Repr

/-- As much of the remaining parameters, then of the data, as the buffer takes when the frame's
bytes begin at `bytesStart`. -/
def Layout.fit (bytesStart nameLength : Nat) (alignment : Alignment)
    (maxBufferSize parametersRemaining dataRemaining : Nat) : Layout :=
  let parameterOffset := alignment.up (bytesStart + nameLength)
  let room := maxBufferSize - parameterOffset
  let parameterCount := min parametersRemaining room
  let unpadded := parameterOffset + parameterCount
  let dataOffset := alignment.up unpadded
  let dataRoom := room - parameterCount - (dataOffset - unpadded)
  ⟨parameterOffset, parameterCount, dataOffset, min dataRemaining dataRoom⟩

/-- Where the parameter words of a received frame put the two payloads. -/
structure Offsets where
  parameters : Nat
  data : Nat
  deriving DecidableEq, Repr

/-- The place of a payload in a received message. An empty payload lies anywhere. -/
def payloadAt (r : Wire.Reader) (offset count : Nat) : Except Error Bytes :=
  if count = 0 then .ok []
  else
    match r.slice offset count with
    | .ok bytes => .ok bytes
    | .error _ => .error (.protocol (.payloadOutside count offset r.length))

end Smb1.Transaction
