import Smb1.File.Close
import Smb1.File.Create
import Smb1.File.Read
import Smb1.File.Write
import Smb1.Setup.Logon
import Smb1.Setup.Negotiate
import Smb1.Setup.Tree
import Smb1.Transaction.Reassembly
import Smb1.Transaction.RequestFrame

/-! The bodies a message can have, and what all of them have in common: a command, parameter words
and data bytes. Word count, chain block and byte count belong to the chain and not to a body. -/
namespace Smb1

open Wire Transaction

inductive Body
  | negotiateRequest (body : NegotiateRequest)
  | negotiateResponse (body : NegotiateResponse)
  | sessionSetupRequest (body : SessionSetupRequest)
  | sessionSetupResponse (body : SessionSetupResponse)
  | treeConnectRequest (body : TreeConnectRequest)
  | treeConnectResponse (body : TreeConnectResponse)
  | logoff
  | createRequest (body : CreateRequest)
  | createResponse (body : CreateResponse)
  | readRequest (body : ReadRequest)
  | readResponse (body : ReadResponse)
  | writeRequest (body : WriteRequest)
  | writeResponse (body : WriteResponse)
  | closeRequest (body : CloseRequest)
  | checkDirectoryRequest (body : CheckDirectoryRequest)
  | transactionRequest (frame : RequestFrame)
  | transactionResponseFrame (frame : ResponseFrame)
  | transactionResponse (response : Reassembly)
  /-- Neither words nor bytes, whatever the command. What is received in them is skipped. -/
  | empty (command : Command)
  deriving DecidableEq, Repr

namespace Body

def command : Body → Command
  | negotiateRequest _ | negotiateResponse _ => .negotiate
  | sessionSetupRequest _ | sessionSetupResponse _ => .sessionSetupAndX
  | treeConnectRequest _ | treeConnectResponse _ => .treeConnectAndX
  | logoff => .logoffAndX
  | createRequest _ | createResponse _ => .ntCreateAndX
  | readRequest _ | readResponse _ => .readAndX
  | writeRequest _ | writeResponse _ => .writeAndX
  | closeRequest _ => .close
  | checkDirectoryRequest _ => .checkDirectory
  | transactionRequest f => f.command
  | transactionResponseFrame f => f.command
  | transactionResponse r => r.command
  | empty command => command

/-- An empty body never carries a chain block, even under a command that could. -/
def isAndX : Body → Bool
  | empty _ => false
  | b => b.command.isAndX

def words : Body → Encoder
  | negotiateRequest b => b.words
  | negotiateResponse b => b.words
  | sessionSetupRequest b => b.words
  | sessionSetupResponse b => b.words
  | treeConnectRequest b => b.words
  | treeConnectResponse b => b.words
  | createRequest b => b.words
  | createResponse b => b.words
  | readRequest b => b.words
  | readResponse b => b.words
  | writeRequest b => b.words
  | writeResponse b => b.words
  | closeRequest b => b.words
  | checkDirectoryRequest b => b.words
  | transactionRequest f => f.words
  | transactionResponseFrame f => f.words
  | transactionResponse r => r.words
  | logoff | empty _ => ∅

def bytes : Body → Encoder
  | negotiateRequest b => b.bytes
  | negotiateResponse b => b.bytes
  | sessionSetupRequest b => b.bytes
  | sessionSetupResponse b => b.bytes
  | treeConnectRequest b => b.bytes
  | treeConnectResponse b => b.bytes
  | createRequest b => b.bytes
  | createResponse b => b.bytes
  | readRequest b => b.bytes
  | readResponse b => b.bytes
  | writeRequest b => b.bytes
  | writeResponse b => b.bytes
  | closeRequest b => b.bytes
  | checkDirectoryRequest b => b.bytes
  | transactionRequest f => f.bytes
  | transactionResponseFrame f => f.bytes
  | transactionResponse r => r.bytes
  | logoff | empty _ => ∅

/-- Runs a decoder for a body. A body whose reading fails stays as it was. -/
def fill (b : Body) (wrap : α → Body) (d : Decoder α) (reader : Reader) :
    Body × Except Error Reader :=
  match d reader with
  | .ok (a, reader) => (wrap a, .ok reader)
  | .error e => (b, .error e)

/-- Reads the parameter words into a template. `wordCount` is the count after the adjustment. -/
def readWords (b : Body) (wordCount : UInt8) (reader : Reader) : Body × Except Error Reader :=
  match b with
  | negotiateRequest x => b.fill negotiateRequest (x.readWords wordCount) reader
  | negotiateResponse x => b.fill negotiateResponse (x.readWords wordCount) reader
  | sessionSetupRequest x => b.fill sessionSetupRequest (x.readWords wordCount) reader
  | sessionSetupResponse x => b.fill sessionSetupResponse (x.readWords wordCount) reader
  | treeConnectRequest x => b.fill treeConnectRequest (x.readWords wordCount) reader
  | treeConnectResponse x => b.fill treeConnectResponse (x.readWords wordCount) reader
  | createRequest x => b.fill createRequest (x.readWords wordCount) reader
  | createResponse x => b.fill createResponse (x.readWords wordCount) reader
  | readRequest x => b.fill readRequest (x.readWords wordCount) reader
  | readResponse x => b.fill readResponse (x.readWords wordCount) reader
  | writeRequest x => b.fill writeRequest (x.readWords wordCount) reader
  | writeResponse x => b.fill writeResponse (x.readWords wordCount) reader
  | closeRequest x => b.fill closeRequest (x.readWords wordCount) reader
  | checkDirectoryRequest x => b.fill checkDirectoryRequest (x.readWords wordCount) reader
  | transactionRequest x => b.fill transactionRequest (x.readWords wordCount) reader
  | transactionResponseFrame x => b.fill transactionResponseFrame (x.readWords wordCount) reader
  | transactionResponse x =>
    let (x, outcome) := x.readWords reader
    (transactionResponse x, outcome)
  | logoff | empty _ => (b, .ok reader)

/-- Reads the data bytes into a template. -/
def readBytes (b : Body) (byteCount : Nat) (reader : Reader) : Body × Except Error Reader :=
  match b with
  | negotiateRequest x => b.fill negotiateRequest (x.readBytes byteCount) reader
  | negotiateResponse x => b.fill negotiateResponse (x.readBytes byteCount) reader
  | sessionSetupRequest x => b.fill sessionSetupRequest (x.readBytes byteCount) reader
  | sessionSetupResponse x => b.fill sessionSetupResponse (x.readBytes byteCount) reader
  | treeConnectRequest x => b.fill treeConnectRequest (x.readBytes byteCount) reader
  | treeConnectResponse x => b.fill treeConnectResponse (x.readBytes byteCount) reader
  | createRequest x => b.fill createRequest (x.readBytes byteCount) reader
  | createResponse x => b.fill createResponse (x.readBytes byteCount) reader
  | readRequest x => b.fill readRequest (x.readBytes byteCount) reader
  | readResponse x => b.fill readResponse (x.readBytes byteCount) reader
  | writeRequest x => b.fill writeRequest (x.readBytes byteCount) reader
  | writeResponse x => b.fill writeResponse (x.readBytes byteCount) reader
  | closeRequest x => b.fill closeRequest (x.readBytes byteCount) reader
  | checkDirectoryRequest x => b.fill checkDirectoryRequest (x.readBytes byteCount) reader
  | transactionRequest x => b.fill transactionRequest (x.readBytes byteCount) reader
  | transactionResponseFrame x => b.fill transactionResponseFrame (x.readBytes byteCount) reader
  | transactionResponse x =>
    let (x, outcome) := x.readBytes reader
    (transactionResponse x, outcome)
  | logoff | empty _ => (b, .ok reader)

/-- The commands that a body lets follow it in one frame, as far as the settings do. -/
def successors : Body → List Command
  | sessionSetupRequest _ => SessionSetupRequest.successors
  | treeConnectRequest _ => TreeConnectRequest.successors
  | readRequest _ => ReadRequest.successors
  | writeRequest _ => WriteRequest.successors
  | _ => []

/-- How many `successor` commands may follow in one chain. -/
def batchLimit (b : Body) (config : Config) (successor : Command) : UInt8 :=
  if successor ∈ b.successors then config.batchLimit b.command successor else 0

def wordCountAdjustment (b : Body) (wordCount : UInt8) : UInt8 :=
  match b with
  | createResponse x => x.wordCountAdjustment wordCount
  | _ => 0

def reportedWordCount (b : Body) (written : UInt8) : UInt8 :=
  match b with
  | createResponse x => x.reportedWordCount written
  | _ => written

end Body

end Smb1
