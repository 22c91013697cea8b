import Mathlib.Logic.Basic

/-! White space as Unicode has it, and texts of nothing else. -/

namespace Char

/-- The code points with the Unicode property `White_Space`. -/
def isUnicodeWhiteSpace (glyph : Char) : Bool :=
  let code := glyph.toNat
  (0x0009 ≤ code && code ≤ 0x000D) || code = 0x0020 || code = 0x0085 || code = 0x00A0 || code = 0x1680 ||
    (0x2000 ≤ code && code ≤ 0x200A) || code = 0x2028 || code = 0x2029 || code = 0x202F || code = 0x205F ||
    code = 0x3000

end Char

namespace String

def trimsToNothing (text : String) : Bool := text.toList.all Char.isUnicodeWhiteSpace

end String
