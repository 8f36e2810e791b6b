import Smb1.Flags

/-! How a file is to be opened: the switches and the choices of an open request. -/
namespace Smb1

abbrev CreateFlags := Flags UInt32 0x1E

namespace CreateFlags

def extendedResponse : CreateFlags := ⟨0x10⟩

end CreateFlags

abbrev ShareAccess := Flags UInt32 0x07

namespace ShareAccess

def read : ShareAccess := ⟨1⟩
def write : ShareAccess := ⟨2⟩
def delete : ShareAccess := ⟨4⟩

end ShareAccess

abbrev FileAttributes := Flags UInt32 0xBF007FB7

namespace FileAttributes

def normal : FileAttributes := ⟨0x80⟩

end FileAttributes

abbrev CreateOptions := Flags UInt32 0x00D0FFFF

/-- What to do when the file exists, and when it does not. -/
inductive CreateDisposition
  | supersede
  | openExisting
  | create
  | openIf
  | overwrite
  | overwriteIf
  deriving DecidableEq, Repr

namespace CreateDisposition

def all : List CreateDisposition :=
  [.supersede, .openExisting, .create, .openIf, .overwrite, .overwriteIf]

def code : CreateDisposition → UInt32
  | .supersede => 0
  | .openExisting => 1
  | .create => 2
  | .openIf => 3
  | .overwrite => 4
  | .overwriteIf => 5

def name : CreateDisposition → String
  | .supersede => "Supersede"
  | .openExisting => "Open"
  | .create => "Create"
  | .openIf => "OpenIf"
  | .overwrite => "Overwrite"
  | .overwriteIf => "OverwriteIf"

def ofCode? (code : UInt32) : Option CreateDisposition := all.find? (·.code == code)

/-- A code without a meaning reads as a plain open. -/
def ofCode (code : UInt32) : CreateDisposition := (ofCode? code).getD .openExisting

@[simp] theorem ofCode_code (d : CreateDisposition) : ofCode d.code = d := by cases d <;> decide

end CreateDisposition

/-- How far the server may act in the client's name. -/
inductive ImpersonationLevel
  | anonymous
  | identification
  | impersonation
  | delegate
  deriving DecidableEq, Repr

namespace ImpersonationLevel

def all : List ImpersonationLevel := [.anonymous, .identification, .impersonation, .delegate]

def code : ImpersonationLevel → UInt32
  | .anonymous => 0
  | .identification => 1
  | .impersonation => 2
  | .delegate => 3

def name : ImpersonationLevel → String
  | .anonymous => "Anonymous"
  | .identification => "Identification"
  | .impersonation => "Impersonation"
  | .delegate => "Delegate"

def ofCode? (code : UInt32) : Option ImpersonationLevel := all.find? (·.code == code)

/-- A code without a meaning reads as impersonation. -/
def ofCode (code : UInt32) : ImpersonationLevel := (ofCode? code).getD .impersonation

@[simp] theorem ofCode_code (l : ImpersonationLevel) : ofCode l.code = l := by cases l <;> decide

end ImpersonationLevel

end Smb1
