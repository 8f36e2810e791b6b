import Smb1.Session.Basic

/-! One request and its response. The request is encoded, signed once signing is active, and
written; the response is taken in only after its multiplex id, status and signature were checked,
so that a rejected frame never reaches the templates. -/
namespace Smb1.Session

/-- Encodes and signs a request. One that cannot be encoded takes no sequence numbers. -/
def prepare (request : Message) (awaited : Bool) : Step Outbound := do
  let s ← get
  let (frame, request) ← ofExcept (request.encode s.config s.maxBufferSize)
  match s.signer with
  | none => return ⟨request, frame, none⟩
  | some signer =>
    let signed ← ofExcept (signer.sign Security.Md5.digest frame 0 frame.length)
    let sent := ⟨{ request with signSeq := signed.requestSeq }, signed.buffer,
      some signed.responseSeq⟩
    set { s with
      signer := some signed.signer
      signatures := .signed sent awaited :: s.signatures }
    return sent

def write (outbound : Outbound) : Step Unit := do
  discard (onConnection (Connection.send outbound.frame))

/-- Sends a request that has no response of its own. -/
def post (request : Message) : Step Unit := do write (← prepare request false)

/-- Checks the signature of a received message while signing is active. -/
def verify (s : Session) (frame : Bytes) (received : Message) : Session × Message × Bool :=
  match s.signer with
  | none => (s, received, true)
  | some signer =>
    let (received, passed) := signer.verify Security.Md5.digest frame received
    ({ s with signatures := .checked received :: s.signatures }, received, passed)

theorem connection_verify (s : Session) (frame : Bytes) (received : Message) :
    (s.verify frame received).1.connection = s.connection := by
  unfold verify
  split <;> rfl

/-- A failed status in place of an answer. -/
def checkStatus (header : Header) : Except Error Unit :=
  if header.ntStatus.isSuccess then .ok ()
  else .error (.response (.failed header.command header.status))

/-- Decodes the answer to the request with a multiplex id. Rejected credentials leave the server
without a key to sign with, so they are reported before the signature is checked. -/
def decodeAnswer (frame : Bytes) (response : Message) (mid : UInt16) : Except Error Message :=
  match response.decode frame with
  | (_, .error e) => .error e
  | (received, .ok ()) =>
    if received.header.mid ≠ mid then
      .error (.protocol (.unexpectedMid received.header.mid mid))
    else if received.header.ntStatus.isAuthFailure then
      .error (.auth received.header.ntStatus)
    else .ok received

/-- Takes a frame into the templates of a response. A frame whose signature fails leaves only that
outcome there. One with a failed status answers the request and is taken in. -/
def accept (s : Session) (frame : Bytes) (response : Message) (mid : UInt16) :
    Session × Message × Except Error Unit :=
  match decodeAnswer frame response mid with
  | .error e => (s, response, .error e)
  | .ok received =>
    match s.verify frame received with
    | (s, received, false) =>
      (s, { response with verification := received.verification },
        .error (.crypto (.signature received.header.command)))
    | (s, received, true) => (s, received, checkStatus received.header)

theorem connection_accept (s : Session) (frame : Bytes) (response : Message) (mid : UInt16) :
    (s.accept frame response mid).1.connection = s.connection := by
  unfold accept
  split
  · rfl
  · rename_i received _
    have kept := connection_verify s frame received
    split <;> simp_all

/-- A request and what its response is read into. -/
structure Exchange where
  request : Message
  response : Message
  deriving DecidableEq, Repr

namespace Exchange

/-- A step of a session within an exchange. What a failed step did to either stays. -/
abbrev Step := EStateM Error (Session × Exchange)

def onSession (step : Session.Step α) : Step α := fun (s, x) =>
  match step s with
  | .ok a s => .ok a (s, x)
  | .error e s => .error e (s, x)

/-- Sends the request, and tells the response the number that it is signed with. -/
def transmit : Step Unit := do
  let (_, x) ← get
  let outbound ← onSession (prepare x.request true)
  let signSeq := outbound.responseSeq.getD x.response.signSeq
  modify fun (s, x) => (s, ⟨outbound.request, { x.response with signSeq }⟩)
  onSession (write outbound)

/-- Takes a received frame into the response. -/
def take (frame : Bytes) (mid : UInt16) : Step Unit := fun (s, x) =>
  match s.accept frame x.response mid with
  | (s, response, .ok ()) => .ok () (s, { x with response })
  | (s, response, .error e) => .error e (s, { x with response })

theorem connection_take {frame : Bytes} {mid : UInt16} {state next : Session × Exchange}
    (h : take frame mid state = .ok () next) : next.1.connection = state.1.connection := by
  obtain ⟨s, x⟩ := state
  have kept := connection_accept s frame x.response mid
  rcases taken : s.accept frame x.response mid with ⟨s', response, ⟨e⟩ | ⟨⟨⟩⟩⟩
  · simp [take, taken] at h
  · simp only [take, taken] at h
    cases h
    rw [taken] at kept
    exact kept

def receive (mid : UInt16) : Step Unit := do
  take (← onSession (onConnection Connection.receive)) mid

/-- Learns the identifiers that an answer assigns. -/
def track (s : Session) (header : Header) : Body → Session
  | .sessionSetupResponse _ => { s with uid := header.uid }
  | .treeConnectResponse _ => { s with tid := header.tid }
  | _ => s

def trackAll : Step Unit :=
  modify fun (s, x) =>
    ((x.response.bodies.take x.response.links).foldl (track · x.response.header) s, x)

/-- Stamps the request and sends as much of it as one frame takes, then waits for the response. -/
def run : Step Unit := do
  let (_, x) ← get
  match x.request.bodies with
  | [] => throw (.precondition .emptyRequest)
  | head :: _ =>
    let mid ← onSession nextMid
    modify fun (s, x) => (s, { x with request.header := s.header head.command mid })
    transmit
    receive mid
    trackAll

end Exchange

/-- Runs an exchange and gives its messages. -/
def exchanging (request response : Message) (step : Exchange.Step α) : Step (α × Exchange) :=
  fun s =>
    match step (s, ⟨request, response⟩) with
    | .ok a (s, x) => .ok (a, x) s
    | .error e (s, _) => .error e s

/-- Sends the frame that a request encodes to and waits for its response. -/
def exchange (request response : Message) : Step Exchange :=
  Prod.snd <$> exchanging request response Exchange.run

/-- Sends the links of a request, frame after frame, and collects the answers. Every frame carries
a link at least, so as many frames as links are enough. Without a link there is nothing to send. -/
def sendLinks : (frames : Nat) → (request response : Message) → (answers : List Body) →
    Step Message
  | 0, _, _, _ => throw (.precondition .emptyRequest)
  | frames + 1, request, response, answers => do
    let ⟨request, response⟩ ← exchange request response
    let answered := min request.links response.bodies.length
    let answers := answers ++ response.bodies.take answered
    let waiting := response.bodies.drop answered
    if request.bodies.length ≤ request.links then
      return { response with bodies := answers, links := answers.length }
    else if waiting.isEmpty then throw (.precondition .noTemplate)
    else
      sendLinks frames { request with bodies := request.bodies.drop request.links }
        { response with bodies := waiting } answers

/-- Sends a whole chain. The response has one template for each link of the request; the answer
holds them all. -/
def send (request response : Message) : Step Message :=
  sendLinks request.bodies.length request response []

end Smb1.Session
