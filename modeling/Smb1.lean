import Smb1.Bytes
import Smb1.Command
import Smb1.Config
import Smb1.Dfs.Operation
import Smb1.Dfs.Referral
import Smb1.Dfs.Resolver
import Smb1.Error
import Smb1.File.Access
import Smb1.File.Close
import Smb1.File.Create
import Smb1.File.Read
import Smb1.File.Write
import Smb1.Flags
import Smb1.Header
import Smb1.KeyMap
import Smb1.Message.Basic
import Smb1.Message.Body
import Smb1.Message.Chain
import Smb1.Proofs.Dfs.Lifetimes
import Smb1.Proofs.Dfs.Missing
import Smb1.Proofs.Dfs.Recording
import Smb1.Proofs.Dfs.Redirection
import Smb1.Proofs.Dfs.Repetition
import Smb1.Proofs.Faultless
import Smb1.Proofs.File.Codec
import Smb1.Proofs.Message.Alone
import Smb1.Proofs.Message.Covered
import Smb1.Proofs.Message.RoundTrip
import Smb1.Proofs.Message.Wordless
import Smb1.Proofs.Security.Signing
import Smb1.Proofs.Session.Acceptance
import Smb1.Proofs.Session.Answers
import Smb1.Proofs.Session.Reading
import Smb1.Proofs.Session.Run
import Smb1.Proofs.Setup.Codec
import Smb1.Proofs.Text.Case
import Smb1.Proofs.Transaction.Arrival
import Smb1.Proofs.Transaction.Changes
import Smb1.Proofs.Transaction.Codec
import Smb1.Proofs.Transaction.Cut
import Smb1.Proofs.Transaction.Delivery
import Smb1.Proofs.Transaction.Fragments
import Smb1.Proofs.Transaction.Outgoing
import Smb1.Proofs.Transaction.Reassembly
import Smb1.Proofs.Transaction.Referral
import Smb1.Proofs.Transaction.Rejection
import Smb1.Proofs.Transaction.Stream
import Smb1.Proofs.Transport.Packets
import Smb1.Proofs.Truncation
import Smb1.Proofs.Wire.Fields
import Smb1.Proofs.Wire.Reads
import Smb1.Proofs.Wire.Text
import Smb1.Proofs.Wire.Writing
import Smb1.Security.Chaining
import Smb1.Security.Credentials
import Smb1.Security.Des
import Smb1.Security.Md4
import Smb1.Security.Md5
import Smb1.Security.Signing
import Smb1.Session.Basic
import Smb1.Session.Exchange
import Smb1.Session.File
import Smb1.Session.Logon
import Smb1.Session.Resolving
import Smb1.Session.Transact
import Smb1.Setup.Capability
import Smb1.Setup.Logon
import Smb1.Setup.Negotiate
import Smb1.Setup.Tree
import Smb1.Status
import Smb1.Text.Case
import Smb1.Text.Case.Table
import Smb1.Text.Hex
import Smb1.Text.Latin1
import Smb1.Text.Utf16
import Smb1.Time
import Smb1.Transaction.Kind
import Smb1.Transaction.Layout
import Smb1.Transaction.Notify
import Smb1.Transaction.Outgoing
import Smb1.Transaction.Reassembly
import Smb1.Transaction.Referral
import Smb1.Transaction.RequestFrame
import Smb1.Transaction.ResponseFrame
import Smb1.Transaction.Subcommand
import Smb1.Transport.Connection
import Smb1.Transport.Netbios
import Smb1.Wire.Alignment
import Smb1.Wire.Encoder
import Smb1.Wire.Payload
import Smb1.Wire.Reader
import Smb1.Wire.Writer
