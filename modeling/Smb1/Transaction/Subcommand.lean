import Smb1.Transaction.Notify
import Smb1.Transaction.Referral

/-! The operations that travel as transactions: a write and read on a named pipe, the referrals of
a path, and waiting for changes in a directory. Each asks with some parameters and data and is
answered with some. -/
namespace Smb1.Transaction

structure PipeRequest where
  fid : UInt16
  data : Bytes
  maxDataCount : UInt16
  deriving DecidableEq, Repr

namespace PipeRequest

def function : UInt16 := 0x26

def name : String := "\\PIPE\\"

def waitForever : UInt32 := 0xFFFFFFFF

end PipeRequest

/-- What a transaction answered. -/
inductive Result
  | pipe (data : Bytes)
  | referral (response : ReferralResponse)
  | changes (changes : List Change)
  deriving DecidableEq, Repr

namespace Result

def kind : Result → Kind
  | pipe _ => .transaction
  | referral _ => .transaction2
  | changes _ => .ntTransact

/-- The result of the same operation that a whole payload holds. -/
def read (expected : Result) (parameters data : Bytes) (unicode : Bool) : Except Error Result :=
  match expected with
  | pipe _ => .ok (pipe data)
  | referral _ => referral <$> ReferralResponse.decode data unicode
  | changes _ => changes <$> Change.decodeAll parameters

def parameters : Result → Bytes
  | changes list => Change.encodeAll list
  | _ => []

def data (r : Result) (unicode : Bool) : Except Error Bytes :=
  match r with
  | pipe data => .ok data
  | referral response => response.encode unicode
  | changes _ => .ok []

end Result

inductive Subcommand
  | pipe (request : PipeRequest)
  | referral (request : ReferralRequest)
  | notify (request : NotifyRequest)
  deriving DecidableEq, Repr

namespace Subcommand

def kind : Subcommand → Kind
  | pipe _ => .transaction
  | referral _ => .transaction2
  | notify _ => .ntTransact

def name : Subcommand → Option String
  | pipe _ => some PipeRequest.name
  | _ => none

def setup : Subcommand → List UInt16
  | pipe r => [PipeRequest.function, r.fid]
  | referral _ => [ReferralRequest.function]
  | notify r => r.setup

def function : Subcommand → UInt16
  | notify _ => NotifyRequest.function
  | _ => 0

def fid : Subcommand → UInt16
  | pipe r => r.fid
  | notify r => r.fid
  | referral _ => 0

def timeout : Subcommand → UInt32
  | pipe _ => PipeRequest.waitForever
  | _ => 0

def maxParameterCount : Subcommand → UInt32
  | notify r => r.maxParameterCount
  | _ => 0

def maxDataCount : Subcommand → UInt32
  | pipe r => r.maxDataCount.toUInt32
  | referral r => r.maxDataCount.toUInt32
  | notify _ => 0

def parameters (s : Subcommand) (unicode : Bool) : Bytes :=
  match s with
  | referral r => r.parameters unicode
  | _ => []

def data : Subcommand → Bytes
  | pipe r => r.data
  | _ => []

/-- An empty result of the kind that the answer will have. -/
def expected : Subcommand → Result
  | pipe _ => .pipe []
  | referral _ => .referral .blank
  | notify _ => .changes []

end Subcommand

end Smb1.Transaction
