import Smb1.Command
import Smb1.KeyMap
import Smb1.Setup.Capability

/-! The client's settings. Batch limits say how deep in a chain a command may still be followed by
another; they are kept by a key that names both commands. -/
namespace Smb1

abbrev BatchLimits := KeyMap UInt8

namespace BatchLimits

def key (predecessor successor : Command) : String :=
  predecessor.batchName ++ "." ++ successor.batchName

def standard : BatchLimits :=
  KeyMap.ofList
    [(key .sessionSetupAndX .treeConnectAndX, 1),
      (key .treeConnectAndX .checkDirectory, 1),
      (key .treeConnectAndX .createDirectory, 1),
      (key .treeConnectAndX .delete, 1),
      (key .treeConnectAndX .deleteDirectory, 1),
      (key .treeConnectAndX .openAndX, 1),
      (key .treeConnectAndX .rename, 1),
      (key .treeConnectAndX .transaction, 1),
      (key .treeConnectAndX .queryInformation, 0),
      (key .openAndX .readAndX, 1),
      (key .readAndX .close, 1),
      (key .writeAndX .close, 1)]

end BatchLimits

structure Config where
  useBatching : Bool
  useUnicode : Bool
  batchLimits : BatchLimits
  maxBufferSize : Nat
  receiveBufferSize : Nat
  transactionBufferSize : Nat
  maxMpxCount : UInt16
  pid : UInt16
  vcNumber : UInt16
  capabilities : Capabilities
  signingEnabled : Bool
  signingRequired : Bool
  lmCompatibility : UInt8
  nativeOs : String
  nativeLanman : String
  dfsDisabled : Bool
  dfsStrictView : Bool
  /-- Seconds. -/
  dfsTtl : Nat
  deriving DecidableEq, Repr

namespace Config

def standard (pid : UInt16) (nativeOs : String) : Config where
  useBatching := true
  useUnicode := true
  batchLimits := BatchLimits.standard
  maxBufferSize := 16644
  receiveBufferSize := 60416
  transactionBufferSize := 0xFFFF - 512
  maxMpxCount := 10
  pid
  vcNumber := 1
  capabilities := Capabilities.ntCommands ||| Capabilities.statusCodes ||| Capabilities.unicode |||
    Capabilities.dfs
  signingEnabled := false
  signingRequired := false
  lmCompatibility := 3
  nativeOs
  nativeLanman := "smb_cifs"
  dfsDisabled := false
  dfsStrictView := false
  dfsTtl := 300

/-- How many `successor` commands may follow `predecessor` in one chain. -/
def batchLimit (c : Config) (predecessor successor : Command) : UInt8 :=
  (c.batchLimits.find? (BatchLimits.key predecessor successor)).getD 0

def withBatchLimit (c : Config) (predecessor successor : Command) (limit : UInt8) : Config :=
  { c with batchLimits := c.batchLimits.insert (BatchLimits.key predecessor successor) limit }

end Config

end Smb1
