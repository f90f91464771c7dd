import Offside.Text.CharRange

namespace Offside

/-!
# White space

The White_Space property of Unicode.  It is wider than the blanks of ASCII:
carriage return, no-break space and the ideographic space are all blank.
-/

/-- Code points with the White_Space property. -/
def CharTable.whiteSpace : CharTable :=
  #[⟨0x9, 0xD⟩, ⟨0x20, 0x20⟩, ⟨0x85, 0x85⟩, ⟨0xA0, 0xA0⟩, ⟨0x1680, 0x1680⟩,
    ⟨0x2000, 0x200A⟩, ⟨0x2028, 0x2029⟩, ⟨0x202F, 0x202F⟩, ⟨0x205F, 0x205F⟩,
    ⟨0x3000, 0x3000⟩]

def isBlank (c : Char) : Bool := CharTable.whiteSpace.contains c

end Offside
