import Smb1.Bytes

/-! Words whose bits are independent switches. `known` has the bits that carry a meaning. -/
namespace Smb1

structure Flags (W : Type) (known : W) where
  bits : W
  deriving DecidableEq, Repr

namespace Flags

variable {W : Type} {known : W}

/-- The switches of a received word. Bits without a meaning are dropped. -/
def ofBits [AndOp W] (bits : W) : Flags W known := ⟨bits &&& known⟩

instance [OfNat W 0] : Inhabited (Flags W known) := ⟨⟨0⟩⟩

instance [OrOp W] : OrOp (Flags W known) := ⟨fun a b => ⟨a.bits ||| b.bits⟩⟩

def contains [AndOp W] [DecidableEq W] (a b : Flags W known) : Bool := a.bits &&& b.bits == b.bits

def intersects [AndOp W] [OfNat W 0] [DecidableEq W] (a b : Flags W known) : Bool :=
  a.bits &&& b.bits != 0

/-- Every switch that is set has a meaning. -/
def Defined [AndOp W] (f : Flags W known) : Prop := f.bits &&& known = f.bits

theorem ofBits_bits [AndOp W] {f : Flags W known} (h : f.Defined) : ofBits f.bits = f := by
  cases f
  exact congrArg mk h

end Flags

end Smb1
