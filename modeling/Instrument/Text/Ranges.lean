/-!
# Character classes given by ranges

A character class of the Unicode standard is kept as the list of its ranges of code points.  The
classes used here coincide with simple rules on ASCII, so a table lists only the code points from
128 on and its user decides the first 128 by the rule.
-/

namespace Instrument
namespace Text

/-- A code point lies in one of the closed ranges. -/
def inRanges (ranges : Array (Nat × Nat)) (character : Char) : Bool :=
  ranges.any fun range => range.1 ≤ character.toNat && character.toNat ≤ range.2

end Text
end Instrument
