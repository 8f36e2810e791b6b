import Smb1.Session.Exchange
import Smb1.Transaction.Outgoing

/-! Transactions within a session: the first frame, an interim response and the further frames when
the request does not fit one, then response frames until both payloads are whole. All of them
share one multiplex id. -/
namespace Smb1.Session

open Transaction

namespace Exchange

/-- The collected response, as far as it has come. -/
def reassembly? (x : Exchange) : Option Reassembly :=
  match x.response.bodies with
  | .transactionResponse r :: _ => some r
  | _ => none

def isComplete (x : Exchange) : Bool := x.reassembly?.any (·.isComplete)

/-- A message that is received takes bytes from the stream. -/
theorem length_input_receive_lt {state next : Session × Exchange} {mid : UInt16}
    (h : receive mid state = .ok () next) :
    next.1.connection.input.length < state.1.connection.input.length := by
  obtain ⟨s, x⟩ := state
  cases read : Netbios.readFrame s.connection.input with
  | mk outcome rest =>
    cases outcome with
    | error e =>
      simp [receive, onSession, onConnection, Connection.receive, Connection.reading, read, bind,
        EStateM.bind] at h
    | ok frame =>
      simp only [receive, onSession, onConnection, Connection.receive, Connection.reading, read,
        bind, EStateM.bind] at h
      rw [connection_take h]
      exact Netbios.length_readFrame_lt read

/-- Receives frames until the response is whole. -/
def receiveAll (mid : UInt16) : Step Unit := fun state =>
  match _received : receive mid state with
  | .error e state => .error e state
  | .ok () state => if state.2.isComplete then .ok () state else receiveAll mid state
termination_by state => state.1.connection.input.length
decreasing_by exact length_input_receive_lt _received

end Exchange

/-- A request of one transaction frame. -/
def frameRequest (frame : RequestFrame) (mid : UInt16) : Step Message := do
  return .ofBodies ((← get).header frame.command mid) [.transactionRequest frame]

/-- Sends the frames that follow a first one. -/
def postFrames (mid : UInt16) : List (Except Error RequestFrame) → Step Unit
  | [] => return
  | frame :: frames => do
    post (← frameRequest (← ofExcept frame) mid)
    postFrames mid frames

/-- Waits for the server to ask for the rest of a request, and sends it. -/
def sendRest (rest : Outgoing) (responseSeq : UInt32) (mid : UInt16) : Step Unit := do
  let interim := Message.expecting [.empty rest.kind.primary]
  discard (exchanging interim { interim with signSeq := responseSeq } (Exchange.receive mid))
  postFrames mid rest.frames

/-- The exchange of a whole transaction. -/
def Exchange.transact (rest : Outgoing) (mid : UInt16) : Exchange.Step Unit := do
  transmit
  if rest.hasMore then
    onSession (sendRest rest (← get).2.response.signSeq mid)
  receiveAll mid

/-- Runs a transaction. -/
def transact (subcommand : Subcommand) : Step Result := do
  let s ← get
  match (Outgoing.start subcommand s.maxBufferSize s.unicode).next? with
  | none => throw (.precondition .noFrames)
  | some (first, rest) =>
    let mid ← nextMid
    let request ← frameRequest (← ofExcept first) mid
    let response := Message.expecting [.transactionResponse (.start subcommand.expected)]
    let (_, x) ← exchanging request response (Exchange.transact rest mid)
    match x.reassembly? with
    | some r => return r.result
    | none => throw (.protocol (.answerMissing "transaction"))

/-- Asks for the referrals of a path on the current tree. -/
def getReferrals (path : String) (maxLevel : UInt16) : Step ReferralResponse := do
  match ← transact (.referral (.ofPath path maxLevel)) with
  | .referral response => return response
  | other => throw (.protocol (.other s!"expected a DFS referral, got {other.kind.name}"))

end Smb1.Session
