import Smb1.Flags

/-! What the two sides say about themselves when they negotiate. -/
namespace Smb1

abbrev Capabilities := Flags UInt32 0xA081F3FF

namespace Capabilities

def unicode : Capabilities := ⟨0x00000004⟩
def ntCommands : Capabilities := ⟨0x00000010⟩
def statusCodes : Capabilities := ⟨0x00000040⟩
def dfs : Capabilities := ⟨0x00001000⟩
def extendedSecurity : Capabilities := ⟨0x80000000⟩

end Capabilities

abbrev SecurityMode := Flags UInt8 0x0F

namespace SecurityMode

def signaturesEnabled : SecurityMode := ⟨0x04⟩
def signaturesRequired : SecurityMode := ⟨0x08⟩

end SecurityMode

end Smb1
