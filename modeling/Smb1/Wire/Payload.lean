import Smb1.Bytes

/-! Payload bytes of a body. The parameter words of a received body say how many there are before
the bytes themselves are read; until then the payload stands for that many zeros. -/
namespace Smb1

inductive Payload
  | held (bytes : Bytes)
  | announced (count : Nat)
  deriving DecidableEq, Repr

namespace Payload

instance : Inhabited Payload := ⟨held []⟩

def length : Payload → Nat
  | held bytes => bytes.length
  | announced count => count

def bytes : Payload → Bytes
  | held bytes => bytes
  | announced count => List.replicate count 0

@[simp] theorem bytes_held (bytes : Bytes) : (held bytes).bytes = bytes := rfl

@[simp] theorem length_held (bytes : Bytes) : (held bytes).length = bytes.length := rfl

@[simp] theorem length_bytes (p : Payload) : p.bytes.length = p.length := by
  cases p <;> simp [bytes, length]

end Payload

end Smb1
