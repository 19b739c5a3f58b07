/-!
# Texts inside texts

A text stands inside another one when the other one can be cut into three pieces of which it is the
middle one.  `occursIn` decides this by looking at every place in turn.
-/

namespace Instrument
namespace Text

/-- Whether one text stands somewhere inside another one. -/
def occursIn (part : List Char) : List Char → Bool
  | [] => part.isEmpty
  | first :: rest => part.isPrefixOf (first :: rest) || occursIn part rest

theorem occursIn_iff {part text : List Char} : occursIn part text = true ↔ part <:+: text := by
  induction text with
  | nil => simp [occursIn]
  | cons first rest ih =>
    simp [occursIn, ih, List.infix_cons_iff]

end Text
end Instrument
