import Smb1.Session.Exchange

/-! The life of a session: negotiation, logging on, connecting to a share, and logging off. -/
namespace Smb1.Session

/-- The last of some answers. -/
def lastAnswer (answer : Message) (pick : Body → Option α) (name : String) : Step α :=
  match answer.bodies.getLast?.bind pick with
  | some a => return a
  | none => throw (.protocol (.answerMissing name))

/-- Why the terms of a server cannot be accepted. -/
def refusal? (s : Session) (dialects : Nat) (server : NegotiateResponse) : Option Error :=
  if dialects ≤ server.dialectIndex.toNat then some (.protocol .noCommonDialect)
  else if s.config.signingRequired && !server.signingEnabled then
    some (.precondition .signingUnsupported)
  else if server.securityMode.contains SecurityMode.signaturesRequired &&
      !(s.config.signingEnabled || s.config.signingRequired) then
    some (.precondition .signingDisabled)
  else none

/-- The session on the terms of a server. -/
def adopt (s : Session) (server : NegotiateResponse) : Session :=
  { s with
    server := some server
    unicode := s.config.useUnicode && server.capabilities.contains Capabilities.unicode
    maxBufferSize :=
      if server.maxBufferSize = 0 then s.maxBufferSize
      else min s.config.maxBufferSize server.maxBufferSize.toNat }

/-- Offers dialects and adopts the terms of the server. -/
def negotiate : Step NegotiateResponse := do
  let offer := NegotiateRequest.standard
  let x ← exchange (.ofBodies .blank [.negotiateRequest offer])
    (.expecting [.negotiateResponse .blank])
  let server ← lastAnswer x.response
    (fun | .negotiateResponse server => some server | _ => none) "negotiate"
  match (← get).refusal? offer.dialects.length server with
  | some e => throw e
  | none =>
    modify (·.adopt server)
    return server

/-- What proves a user to a server: both password fields, empty for the anonymous user. -/
def passwords (a : Authentication) : Except Error (Bytes × Bytes) := do
  if a.user.isAnonymous then return ([], [])
  return (← a.ansiResponse, ← a.unicodeResponse)

/-- Starts signing with the key of a logon, if it is wanted and has not started yet. -/
def startSigning (a : Authentication) : Step Unit := do
  let s ← get
  if !a.user.isAnonymous && !s.isSigning && s.wantsSigning then
    let signer ← ofExcept (Signer.ofAuthentication a)
    set { s with signer := some signer, signatures := [] }

/-- The chain that logs a user on, and connects to `tree` behind it. -/
def logonRequest (setup : SessionSetupRequest) (tree : Option String) : Message :=
  .ofBodies .blank (.sessionSetupRequest setup ::
    (tree.map fun path => Body.treeConnectRequest (.ofPath path)).toList)

def logonTemplates (tree : Option String) : Message :=
  .expecting (.sessionSetupResponse .blank ::
    (tree.map fun _ => Body.treeConnectResponse .blank).toList)

/-- Logs a user on. Signing starts with this request when it is wanted; a logon that fails ends
it. -/
def logOn (user : User) (tree : Option String) (clientChallenge : Octets 8) : Step Unit := do
  let s ← get
  match s.server with
  | none => throw (.precondition .notNegotiated)
  | some server =>
    let a : Authentication := ⟨user, s.config.lmCompatibility, server.challenge, clientChallenge⟩
    let (insensitive, sensitive) ← ofExcept (passwords a)
    let setup := (SessionSetupRequest.ofConfig s.config server.sessionKey).withCredentials
      user.username user.domain insensitive sensitive
    startSigning a
    try discard (send (logonRequest setup tree) (logonTemplates tree))
    catch e =>
      modify fun s => { s with signer := none }
      throw e
    modify fun s => { s with user := some user }

def connectTree (path : String) : Step TreeConnectResponse := do
  let answer ← send (.ofBodies .blank [.treeConnectRequest (.ofPath path)])
    (.expecting [.treeConnectResponse .blank])
  lastAnswer answer (fun | .treeConnectResponse tree => some tree | _ => none) "tree connect"

/-- The session without its logon. -/
def loggedOff (s : Session) : Session :=
  { s with uid := 0, tid := 0, signer := none, user := none }

/-- Ends the logon, and signing with it. -/
def logOff : Step Unit := do
  discard (exchange (.ofBodies .blank [.logoff]) (.expecting [.logoff]))
  modify loggedOff

end Smb1.Session
