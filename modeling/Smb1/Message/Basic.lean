import Smb1.Message.Chain
import Smb1.Wire.Writer

/-! Messages: one header and the chain of bodies that share it. A request is written from its
bodies; a response is read into bodies that were prepared for it, one for each link. -/
namespace Smb1

open Wire

/-- What checking a received message's signature gave. -/
inductive Verification
  | unchecked
  | passed
  | failed
  deriving DecidableEq, Repr

structure Message where
  header : Header
  bodies : List Body
  /-- Bytes of the frame, header included. -/
  length : Nat
  signSeq : UInt32
  verification : Verification
  /-- Links that the last frame carried. -/
  links : Nat
  deriving DecidableEq, Repr

namespace Message

def ofBodies (header : Header) (bodies : List Body) : Message :=
  ⟨header, bodies, 0, 0, .unchecked, 0⟩

/-- Templates to read a response into. -/
def expecting (bodies : List Body) : Message := ofBodies .blank bodies

/-- The header as link `index` sees it. -/
def linkHeader? (m : Message) (index : Nat) : Option Header :=
  m.bodies[index]?.map fun body => m.header.forLink body.command

/-- The bodies that did not go into the last frame. -/
def unsent (m : Message) : List Body := m.bodies.drop m.links

/-- Everything after the header of a message. -/
def chainEncoder (m : Message) (config : Config) : Encoder :=
  Chain.encode config m.header.isResponse 0 m.bodies

/-- The frame of the bodies that may share one, and the message that knows its frame. -/
def encode (m : Message) (config : Config) (maxSize : Nat) : Except Error (Bytes × Message) :=
  match m.bodies with
  | [] => .error (.precondition .emptyMessage)
  | head :: _ => do
    let m := { m with header := m.header.forLink head.command }
    let frame := Encoder.piece m.header.encode ++ m.chainEncoder config
    let writer ← (Writer.empty maxSize m.header.isUnicode).put? frame
    .ok (writer.contents, { m with
      length := writer.position
      links := Chain.carried config m.header.isResponse 0 m.bodies })

/-- Reads a frame into the templates. A failed read leaves header, length and links as they were;
the bodies read so far stay. -/
def decode (m : Message) (frame : Bytes) : Message × Except Error Unit :=
  match Header.decode frame with
  | .error e => (m, .error e)
  | .ok (header, _) =>
    match m.bodies with
    | [] => (m, .error (.precondition .emptyMessage))
    | head :: _ =>
      if head.command ≠ header.command then
        (m, .error (.protocol (.unexpectedCommand header.command head.command)))
      else
        let reader := (Reader.start frame header.isUnicode).seek Header.length
        match Chain.decode header.status m.bodies reader with
        | (bodies, .error e) => ({ m with bodies }, .error e)
        | (bodies, .ok (links, reader)) =>
          ({ m with header, bodies, links, length := reader.position }, .ok ())

end Message

end Smb1
