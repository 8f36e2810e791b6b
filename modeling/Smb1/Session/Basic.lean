import Smb1.Security.Md5
import Smb1.Security.Signing
import Smb1.Transport.Connection

/-! One authenticated conversation with a server. Every request is stamped with the identifiers of
the session and a fresh multiplex id, and only a response with that id answers it. -/
namespace Smb1

/-- A request whose frame can be written. -/
structure Outbound where
  request : Message
  frame : Bytes
  /-- The number that its response is signed with. -/
  responseSeq : Option UInt32
  deriving DecidableEq, Repr

/-- What a signer was used for. -/
inductive SignatureUse
  /-- A request was signed. One that is awaited has a response of its own. -/
  | signed (sent : Outbound) (awaited : Bool)
  /-- The signature of a response was checked. -/
  | checked (response : Message)
  deriving DecidableEq, Repr

structure Session where
  connection : Connection
  config : Config
  /-- The server's choice of a dialect, with its terms. -/
  server : Option NegotiateResponse
  user : Option User
  signer : Option Signer
  /-- What was signed and checked since signing last started, latest first. -/
  signatures : List SignatureUse
  unicode : Bool
  /-- The smaller of the configured buffer and the one that the server accepts. -/
  maxBufferSize : Nat
  uid : UInt16
  tid : UInt16
  /-- The multiplex id of the last request. -/
  mid : UInt16
  deriving DecidableEq, Repr

namespace Session

def start (connection : Connection) (config : Config) : Session where
  connection
  config
  server := none
  user := none
  signer := none
  signatures := []
  unicode := config.useUnicode
  maxBufferSize := config.maxBufferSize
  uid := 0
  tid := 0
  mid := 0

/-- A step of a session. What a failed step did to it stays. -/
abbrev Step := EStateM Error Session

def isSigning (s : Session) : Bool := s.signer.isSome

/-- The multiplex id after another. The highest is kept free for the server's own messages. -/
def midAfter (mid : UInt16) : UInt16 := mid % 0xFFFE + 1

def nextMid : Step UInt16 := do
  modify fun s => { s with mid := midAfter s.mid }
  return (← get).mid

/-- The header of a request that is sent now. -/
def header (s : Session) (command : Command) (mid : UInt16) : Header :=
  let header := Header.ofIds command s.tid s.config.pid s.uid mid
  let unicode := if s.unicode then HeaderFlags2.unicodeStrings else ⟨0⟩
  let signature := if s.isSigning then HeaderFlags2.signature else ⟨0⟩
  { header with flags2 := header.flags2 ||| unicode ||| signature }

/-- Signing starts when the server demands it or both sides are willing, and always when the
settings demand it. -/
def wantsSigning (s : Session) : Bool :=
  s.config.signingRequired || s.server.any fun server =>
    server.securityMode.contains SecurityMode.signaturesRequired ||
      s.config.signingEnabled && server.signingEnabled

/-- The domain of the user, for whom lists of trusted domains are asked. -/
def userDomain (s : Session) : Option String := (s.user.map (·.domain)).filter (· ≠ "")

/-- Runs a step of the connection. -/
def onConnection (step : Connection.Step α) : Step α := fun s =>
  match step s.connection with
  | .ok a connection => .ok a { s with connection }
  | .error e connection => .error e { s with connection }

end Session

end Smb1
