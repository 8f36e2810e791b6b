import Smb1.Session.File
import Smb1.Session.Logon
import Smb1.Session.Transact

/-! Runs of a session: its operations one after another, whatever comes of each. -/
namespace Smb1.Session

/-- What can be done with a session. -/
inductive Operation
  | negotiate
  | logOn (user : User) (tree : Option String) (clientChallenge : Octets 8)
  | connectTree (path : String)
  | read (fid : UInt16) (offset : UInt64) (buffer : Bytes)
  | close (fid : UInt16)
  | exchange (request response : Message)
  | send (request response : Message)
  | transact (subcommand : Transaction.Subcommand)
  | getReferrals (path : String) (maxLevel : UInt16)
  | logOff
  /-- Something happens to the connection between two other operations. -/
  | meanwhile (change : Connection → Connection)

namespace Operation

/-- The step of an operation, without its answer. -/
def step : Operation → Step Unit
  | negotiate => discard Session.negotiate
  | logOn user tree clientChallenge => Session.logOn user tree clientChallenge
  | connectTree path => discard (Session.connectTree path)
  | read fid offset buffer => discard (Session.read fid offset buffer)
  | close fid => Session.close fid
  | exchange request response => discard (Session.exchange request response)
  | send request response => discard (Session.send request response)
  | transact subcommand => discard (Session.transact subcommand)
  | getReferrals path maxLevel => discard (Session.getReferrals path maxLevel)
  | logOff => Session.logOff
  | meanwhile change => modify fun s => { s with connection := change s.connection }

def perform (operation : Operation) (s : Session) : Except Error Unit × Session :=
  match operation.step s with
  | .ok () s => (.ok (), s)
  | .error e s => (.error e, s)

/-- Whether signing may end with an outcome: a logon has failed, or a logoff has not. -/
def endsSigning : Operation → Except Error Unit → Bool
  | logOn .., .error _ | logOff, .ok _ => true
  | _, _ => false

end Operation

/-- Performs operations in order, and tells what came of each. -/
def performAll : List Operation → Session → List (Operation × Except Error Unit) × Session
  | [], s => ([], s)
  | operation :: operations, s =>
    let (outcome, s) := operation.perform s
    let (outcomes, s) := performAll operations s
    ((operation, outcome) :: outcomes, s)

end Smb1.Session
