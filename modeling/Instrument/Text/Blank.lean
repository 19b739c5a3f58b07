/-!
# Blanks

What separates two tokens is not only the ASCII blanks: every character with the Unicode property
`White_Space` counts, and so do the two marks that set the direction of writing.
-/

namespace Instrument
namespace Text

/-- The Unicode property `White_Space`. -/
def isWhiteSpace (character : Char) : Bool :=
  let code := character.toNat
  (9 ≤ code && code ≤ 13) || code == 0x20 || code == 0x85 || code == 0xa0 || code == 0x1680 ||
    (0x2000 ≤ code && code ≤ 0x200a) || code == 0x2028 || code == 0x2029 || code == 0x202f ||
    code == 0x205f || code == 0x3000

/-- A character that separates tokens without being part of one. -/
def isBlank (character : Char) : Bool :=
  isWhiteSpace character || character.toNat == 0x200e || character.toNat == 0x200f

end Text
end Instrument
