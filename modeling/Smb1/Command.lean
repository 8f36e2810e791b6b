import Smb1.Bytes

/-! The commands of the protocol, their codes on the wire and their names. A command whose
parameter words open with a chain block can be followed by another command in one frame. -/
namespace Smb1

inductive Command
  | createDirectory
  | deleteDirectory
  | openFile
  | create
  | close
  | flush
  | delete
  | rename
  | queryInformation
  | setInformation
  | read
  | write
  | lockByteRange
  | unlockByteRange
  | createTemporary
  | createNew
  | checkDirectory
  | processExit
  | seek
  | lockAndRead
  | writeAndUnlock
  | readRaw
  | readMpx
  | readMpxSecondary
  | writeRaw
  | writeMpx
  | writeMpxSecondary
  | writeComplete
  | queryServer
  | setInformation2
  | queryInformation2
  | lockingAndX
  | transaction
  | transactionSecondary
  | ioctl
  | ioctlSecondary
  | copy
  | move
  | echo
  | writeAndClose
  | openAndX
  | readAndX
  | writeAndX
  | newFileSize
  | closeAndTreeDisc
  | transaction2
  | transaction2Secondary
  | findClose2
  | findNotifyClose
  | treeConnect
  | treeDisconnect
  | negotiate
  | sessionSetupAndX
  | logoffAndX
  | treeConnectAndX
  | queryInformationDisk
  | search
  | find
  | findUnique
  | findClose
  | ntTransact
  | ntTransactSecondary
  | ntCreateAndX
  | ntCancel
  | ntRename
  | openPrintFile
  | writePrintFile
  | closePrintFile
  | getPrintQueue
  | readBulk
  | writeBulk
  | writeBulkData
  | invalid
  | noAndXCommand
  deriving DecidableEq, Repr, Inhabited

namespace Command

def code : Command → UInt8
  | .createDirectory => 0x00
  | .deleteDirectory => 0x01
  | .openFile => 0x02
  | .create => 0x03
  | .close => 0x04
  | .flush => 0x05
  | .delete => 0x06
  | .rename => 0x07
  | .queryInformation => 0x08
  | .setInformation => 0x09
  | .read => 0x0A
  | .write => 0x0B
  | .lockByteRange => 0x0C
  | .unlockByteRange => 0x0D
  | .createTemporary => 0x0E
  | .createNew => 0x0F
  | .checkDirectory => 0x10
  | .processExit => 0x11
  | .seek => 0x12
  | .lockAndRead => 0x13
  | .writeAndUnlock => 0x14
  | .readRaw => 0x1A
  | .readMpx => 0x1B
  | .readMpxSecondary => 0x1C
  | .writeRaw => 0x1D
  | .writeMpx => 0x1E
  | .writeMpxSecondary => 0x1F
  | .writeComplete => 0x20
  | .queryServer => 0x21
  | .setInformation2 => 0x22
  | .queryInformation2 => 0x23
  | .lockingAndX => 0x24
  | .transaction => 0x25
  | .transactionSecondary => 0x26
  | .ioctl => 0x27
  | .ioctlSecondary => 0x28
  | .copy => 0x29
  | .move => 0x2A
  | .echo => 0x2B
  | .writeAndClose => 0x2C
  | .openAndX => 0x2D
  | .readAndX => 0x2E
  | .writeAndX => 0x2F
  | .newFileSize => 0x30
  | .closeAndTreeDisc => 0x31
  | .transaction2 => 0x32
  | .transaction2Secondary => 0x33
  | .findClose2 => 0x34
  | .findNotifyClose => 0x35
  | .treeConnect => 0x70
  | .treeDisconnect => 0x71
  | .negotiate => 0x72
  | .sessionSetupAndX => 0x73
  | .logoffAndX => 0x74
  | .treeConnectAndX => 0x75
  | .queryInformationDisk => 0x80
  | .search => 0x81
  | .find => 0x82
  | .findUnique => 0x83
  | .findClose => 0x84
  | .ntTransact => 0xA0
  | .ntTransactSecondary => 0xA1
  | .ntCreateAndX => 0xA2
  | .ntCancel => 0xA4
  | .ntRename => 0xA5
  | .openPrintFile => 0xC0
  | .writePrintFile => 0xC1
  | .closePrintFile => 0xC2
  | .getPrintQueue => 0xC3
  | .readBulk => 0xD8
  | .writeBulk => 0xD9
  | .writeBulkData => 0xDA
  | .invalid => 0xFE
  | .noAndXCommand => 0xFF

def name : Command → String
  | .createDirectory => "CreateDirectory"
  | .deleteDirectory => "DeleteDirectory"
  | .openFile => "Open"
  | .create => "Create"
  | .close => "Close"
  | .flush => "Flush"
  | .delete => "Delete"
  | .rename => "Rename"
  | .queryInformation => "QueryInformation"
  | .setInformation => "SetInformation"
  | .read => "Read"
  | .write => "Write"
  | .lockByteRange => "LockByteRange"
  | .unlockByteRange => "UnlockByteRange"
  | .createTemporary => "CreateTemporary"
  | .createNew => "CreateNew"
  | .checkDirectory => "CheckDirectory"
  | .processExit => "ProcessExit"
  | .seek => "Seek"
  | .lockAndRead => "LockAndRead"
  | .writeAndUnlock => "WriteAndUnlock"
  | .readRaw => "ReadRaw"
  | .readMpx => "ReadMpx"
  | .readMpxSecondary => "ReadMpxSecondary"
  | .writeRaw => "WriteRaw"
  | .writeMpx => "WriteMpx"
  | .writeMpxSecondary => "WriteMpxSecondary"
  | .writeComplete => "WriteComplete"
  | .queryServer => "QueryServer"
  | .setInformation2 => "SetInformation2"
  | .queryInformation2 => "QueryInformation2"
  | .lockingAndX => "LockingAndX"
  | .transaction => "Transaction"
  | .transactionSecondary => "TransactionSecondary"
  | .ioctl => "Ioctl"
  | .ioctlSecondary => "IoctlSecondary"
  | .copy => "Copy"
  | .move => "Move"
  | .echo => "Echo"
  | .writeAndClose => "WriteAndClose"
  | .openAndX => "OpenAndX"
  | .readAndX => "ReadAndX"
  | .writeAndX => "WriteAndX"
  | .newFileSize => "NewFileSize"
  | .closeAndTreeDisc => "CloseAndTreeDisc"
  | .transaction2 => "Transaction2"
  | .transaction2Secondary => "Transaction2Secondary"
  | .findClose2 => "FindClose2"
  | .findNotifyClose => "FindNotifyClose"
  | .treeConnect => "TreeConnect"
  | .treeDisconnect => "TreeDisconnect"
  | .negotiate => "Negotiate"
  | .sessionSetupAndX => "SessionSetupAndX"
  | .logoffAndX => "LogoffAndX"
  | .treeConnectAndX => "TreeConnectAndX"
  | .queryInformationDisk => "QueryInformationDisk"
  | .search => "Search"
  | .find => "Find"
  | .findUnique => "FindUnique"
  | .findClose => "FindClose"
  | .ntTransact => "NtTransact"
  | .ntTransactSecondary => "NtTransactSecondary"
  | .ntCreateAndX => "NtCreateAndX"
  | .ntCancel => "NtCancel"
  | .ntRename => "NtRename"
  | .openPrintFile => "OpenPrintFile"
  | .writePrintFile => "WritePrintFile"
  | .closePrintFile => "ClosePrintFile"
  | .getPrintQueue => "GetPrintQueue"
  | .readBulk => "ReadBulk"
  | .writeBulk => "WriteBulk"
  | .writeBulkData => "WriteBulkData"
  | .invalid => "Invalid"
  | .noAndXCommand => "NoAndXCommand"

def all : List Command := [
  .createDirectory, .deleteDirectory, .openFile, .create, .close, .flush, .delete, .rename,
  .queryInformation, .setInformation, .read, .write, .lockByteRange, .unlockByteRange,
  .createTemporary, .createNew, .checkDirectory, .processExit, .seek, .lockAndRead,
  .writeAndUnlock, .readRaw, .readMpx, .readMpxSecondary, .writeRaw, .writeMpx,
  .writeMpxSecondary, .writeComplete, .queryServer, .setInformation2, .queryInformation2,
  .lockingAndX, .transaction, .transactionSecondary, .ioctl, .ioctlSecondary, .copy, .move,
  .echo, .writeAndClose, .openAndX, .readAndX, .writeAndX, .newFileSize, .closeAndTreeDisc,
  .transaction2, .transaction2Secondary, .findClose2, .findNotifyClose, .treeConnect,
  .treeDisconnect, .negotiate, .sessionSetupAndX, .logoffAndX, .treeConnectAndX,
  .queryInformationDisk, .search, .find, .findUnique, .findClose, .ntTransact,
  .ntTransactSecondary, .ntCreateAndX, .ntCancel, .ntRename, .openPrintFile, .writePrintFile,
  .closePrintFile, .getPrintQueue, .readBulk, .writeBulk, .writeBulkData, .invalid,
  .noAndXCommand]

def ofCode? (code : UInt8) : Option Command := all.find? (·.code == code)

@[simp] theorem ofCode?_code (c : Command) : ofCode? c.code = some c := by cases c <;> decide

theorem code_injective {a b : Command} (h : a.code = b.code) : a = b :=
  Option.some.inj ((ofCode?_code a).symm.trans ((congrArg ofCode? h).trans (ofCode?_code b)))

/-- Whether the parameter words start with the four-byte chain block. -/
def isAndX : Command → Bool
  | .lockingAndX | .openAndX | .readAndX | .writeAndX | .sessionSetupAndX | .logoffAndX
  | .treeConnectAndX | .ntCreateAndX => true
  | _ => false

/-- The name a command has in batch limit keys. Commands that no key can mention share one. -/
def batchName : Command → String
  | .ntCreateAndX => "NTCreateAndX"
  | .checkDirectory => "CheckDirectory"
  | .createDirectory => "CreateDirectory"
  | .delete => "Delete"
  | .deleteDirectory => "DeleteDirectory"
  | .rename => "Rename"
  | .queryInformation => "QueryInformation"
  | .close => "Close"
  | .transaction => "Transaction"
  | .transaction2 => "Transaction2"
  | .ntTransact => "NtTransact"
  | .openAndX => "OpenAndX"
  | .readAndX => "ReadAndX"
  | .writeAndX => "WriteAndX"
  | .lockingAndX => "LockingAndX"
  | .sessionSetupAndX => "SessionSetupAndX"
  | .logoffAndX => "LogoffAndX"
  | .treeConnectAndX => "TreeConnectAndX"
  | .negotiate => "Negotiate"
  | _ => "Other"

end Command

end Smb1
