import Smb1.Transport.Netbios

/-! A connection to a server: the bytes that the server sends and the bytes written to it. -/
namespace Smb1

open Netbios

structure Connection where
  name : String
  /-- What has not been read yet. -/
  input : Bytes
  /-- What was written, latest first. -/
  written : List Bytes
  /-- How many bytes can still be written; `none` means any number. -/
  room : Option Nat
  deriving DecidableEq, Repr

namespace Connection

def ofInput (name : String) (input : Bytes) (room : Option Nat) : Connection :=
  ⟨name, input, [], room⟩

/-- All that was written, in order. -/
def output (c : Connection) : Bytes := c.written.reverse.flatten

/-- A step on a connection. What a failed step did to it stays. -/
abbrev Step := EStateM Error Connection

/-- Writes as much of `bytes` as there is room for, and fails if that is not all. -/
def write (bytes : Bytes) : Step Unit := fun c =>
  match c.room with
  | none => .ok () { c with written := bytes :: c.written }
  | some room =>
    let taken := bytes.take room
    let c := { c with written := taken :: c.written, room := some (room - taken.length) }
    if bytes.length ≤ room then .ok () c else .error (.io .refused) c

/-- Writes a frame as one session message; the answer is how many bytes that took. -/
def send (frame : Bytes) : Step Nat := do
  if maxFrameLength < frame.length then
    throw (.precondition (.frameTooLong frame.length))
  write (header sessionMessage frame.length)
  write frame
  return headerLength + frame.length

/-- Runs a reader on the input. -/
def reading (read : Bytes → Except Error α × Bytes) : Step α := fun c =>
  match read c.input with
  | (.ok a, input) => .ok a { c with input }
  | (.error e, input) => .error e { c with input }

def receive : Step Bytes := reading readFrame

/-- Receives a frame whose file data may go to `buffer`. -/
def receiveSplit (buffer : Bytes) : Step SplitFrame := reading (readSplitFrame · buffer)

/-- Every frame up to the first that cannot be read. -/
def receiveAll : Step (List Bytes) := reading fun input =>
  let (frames, rest) := readFrames input
  (.ok frames, rest)

/-- Receives a frame and sends it back. -/
def echo : Step Nat := do send (← receive)

end Connection

end Smb1
