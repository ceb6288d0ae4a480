import Datatypes.Text.Extending
import Datatypes.Text.Unassigned

/-! # Characters that have no glyph of their own

Quoted text writes by number what shows nothing, what attaches to the character before
it, and what no character is assigned to. Up to the tilde these are the controls.
-/

namespace Datatypes.Text

/-- Beyond the tilde: controls, format characters, separators, private-use characters and
fillers, which are ignored unless a renderer supports them. -/
def invisibleRanges : CodeRanges :=
  [(0x7f, 0xa0), (0xad, 0xad), (0x600, 0x605), (0x61c, 0x61c), (0x6dd, 0x6dd), (0x70f, 0x70f),
   (0x890, 0x891), (0x8e2, 0x8e2), (0x115f, 0x1160), (0x1680, 0x1680), (0x180e, 0x180e),
   (0x2000, 0x200f), (0x2028, 0x202f), (0x205f, 0x2064), (0x2066, 0x206f), (0x3000, 0x3000),
   (0x3164, 0x3164), (0xe000, 0xf8ff), (0xfeff, 0xfeff), (0xffa0, 0xffa0), (0xfff9, 0xfffb),
   (0x110bd, 0x110bd), (0x110cd, 0x110cd), (0x13430, 0x1343f), (0x1bca0, 0x1bca3),
   (0x1d173, 0x1d17a), (0xe0001, 0xe0001), (0xe0020, 0xe007f), (0xf0000, 0xffffd),
   (0x100000, 0x10fffd)]

/-- A character that quoted text writes by number. -/
def isUnprintable (c : Char) : Bool :=
  if c.toNat ≤ 0x7e then c.toNat ≤ 0x1f
  else invisibleRanges.has c || extendingRanges.has c || unassignedRanges.has c

end Datatypes.Text
