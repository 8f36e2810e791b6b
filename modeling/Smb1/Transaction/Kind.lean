import Smb1.Command
import Smb1.Wire.Alignment

/-! The three transaction families. They share one way of spreading parameters and data over
frames and differ in command codes, word layout, alignment and the totals they can describe. -/
namespace Smb1

/-- The two payloads of a transaction. -/
inductive Transaction.Section
  | parameter
  | data
  deriving DecidableEq, Repr

def Transaction.Section.name : Transaction.Section → String
  | .parameter => "parameter"
  | .data => "data"

inductive Transaction.Kind
  | transaction
  | transaction2
  | ntTransact
  deriving DecidableEq, Repr, Inhabited

namespace Transaction.Kind

def all : List Kind := [.transaction, .transaction2, .ntTransact]

def name : Kind → String
  | .transaction => "Transaction"
  | .transaction2 => "Transaction2"
  | .ntTransact => "NtTransact"

def primary : Kind → Command
  | .transaction => .transaction
  | .transaction2 => .transaction2
  | .ntTransact => .ntTransact

def secondary : Kind → Command
  | .transaction => .transactionSecondary
  | .transaction2 => .transaction2Secondary
  | .ntTransact => .ntTransactSecondary

/-- The family a command belongs to, and whether it continues a request. -/
def ofCommand? : Command → Option (Kind × Bool)
  | .transaction => some (.transaction, false)
  | .transactionSecondary => some (.transaction, true)
  | .transaction2 => some (.transaction2, false)
  | .transaction2Secondary => some (.transaction2, true)
  | .ntTransact => some (.ntTransact, false)
  | .ntTransactSecondary => some (.ntTransact, true)
  | _ => none

@[simp] theorem ofCommand?_primary (k : Kind) : ofCommand? k.primary = some (k, false) := by
  cases k <;> rfl

@[simp] theorem ofCommand?_secondary (k : Kind) : ofCommand? k.secondary = some (k, true) := by
  cases k <;> rfl

/-- Parameters and data start on this boundary. -/
def alignment : Kind → Alignment
  | .ntTransact => .four
  | _ => .two

/-- The largest total a frame can describe. -/
def maxTotal : Kind → Nat
  | .ntTransact => 0xFFFFFFFF
  | _ => 0xFFFF

/-- Bytes of the parameter words of a first request frame. -/
def primaryWordsLength (k : Kind) (setupCount : Nat) : Nat :=
  (match k with
    | .ntTransact => 38
    | _ => 28) + setupCount * 2

def secondaryWordsLength : Kind → Nat
  | .transaction => 16
  | .transaction2 => 18
  | .ntTransact => 36

def responseWordsLength (k : Kind) (setupCount : Nat) : Nat :=
  (match k with
    | .ntTransact => 36
    | _ => 20) + setupCount * 2

end Transaction.Kind

end Smb1
