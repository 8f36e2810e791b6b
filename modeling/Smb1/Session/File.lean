import Smb1.Session.Exchange

/-! Files of a session: reading into a buffer and closing. -/
namespace Smb1.Session

/-- A buffer that was read into. -/
structure Filled where
  count : Nat
  buffer : Bytes
  deriving DecidableEq, Repr

/-- The templates for a response whose payload may already lie in the buffer. -/
def readTemplates (response : Message) (split : Netbios.SplitFrame) : Message :=
  match split.payloadLength with
  | some length =>
    { response with bodies := [.readResponse (.ofDetached (split.buffer.take length))] }
  | none => response

/-- The buffer after a response. A detached payload lies in it already. -/
def fill (answer : ReadResponse) (buffer : Bytes) : Filled :=
  if answer.detached then ⟨answer.data.length, buffer⟩
  else
    let length := min answer.data.length buffer.length
    ⟨length, answer.data.take length ++ buffer.drop length⟩

/-- The response of a read, which is received in two parts where that is possible. -/
def Exchange.readInto (buffer : Bytes) (mid : UInt16) : Exchange.Step Bytes := do
  transmit
  let split ← onSession (onConnection (Connection.receiveSplit buffer))
  modify fun (s, x) => (s, { x with response := readTemplates x.response split })
  take split.head mid
  return split.buffer

/-- Reads from an offset of a file until a buffer is full, at most. -/
def read (fid : UInt16) (offset : UInt64) (buffer : Bytes) : Step Filled := do
  let count := UInt32.ofNat (min buffer.length 0xFFFFFFFF)
  let mid ← nextMid
  let header := (← get).header .readAndX mid
  let (buffer, x) ← exchanging (.ofBodies header [.readRequest (.ofRange fid offset count)])
    (.expecting [.readResponse .blank]) (Exchange.readInto buffer mid)
  match x.response.bodies with
  | .readResponse answer :: _ => return fill answer buffer
  | _ => throw (.protocol (.answerMissing "read"))

def close (fid : UInt16) : Step Unit :=
  discard (exchange (.ofBodies .blank [.closeRequest (.ofFid fid)]) (.expecting [.empty .close]))

end Smb1.Session
