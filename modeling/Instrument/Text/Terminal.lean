/-!
# Text without control sequences

Text that is meant for a terminal may hold sequences of control characters that set colours or move
the cursor.  Where the output is not a terminal, the sequences are taken out, and with them all
control characters that are not blanks.  A blank inside an unfinished sequence ends it.
-/

namespace Instrument
namespace Text

/-- How far a sequence of control characters has been read. -/
inductive Sequence where
  | none
  | escape
  | escapeIntermediate
  | controlEntry
  | controlParameter
  | controlIntermediate
  | controlIgnored
  | deviceEntry
  | deviceParameter
  | deviceIntermediate
  | deviceIgnored
  | deviceContent
  | commandString
  | otherString
deriving DecidableEq, Repr

namespace Sequence

def isBlankByte (byte : UInt8) : Bool :=
  byte == 0x20 || byte == 0x09 || byte == 0x0a || byte == 0x0c || byte == 0x0d

/-- Whether a byte is a control character. -/
def isControlByte (byte : UInt8) : Bool := byte < 0x20

/-- Whether control characters act at once, although a sequence is not finished. -/
def actsAtOnce : Sequence → Bool
  | none | escape | escapeIntermediate => true
  | controlEntry | controlParameter | controlIntermediate | controlIgnored => true
  | _ => false

/-- Whether a byte lies in a range. -/
def isBetween (lower upper byte : UInt8) : Bool := lower ≤ byte && byte ≤ upper

/-- What a sequence becomes with one more byte that is not a control character. -/
def next (sequence : Sequence) (byte : UInt8) : Sequence :=
  match sequence with
  | none => none
  | escape =>
    if isBetween 0x20 0x2f byte then escapeIntermediate
    else if byte == 0x5b then controlEntry
    else if byte == 0x5d then commandString
    else if byte == 0x50 then deviceEntry
    else if byte == 0x58 || byte == 0x5e || byte == 0x5f then otherString
    else if isBetween 0x30 0x7e byte then none
    else escape
  | escapeIntermediate => if isBetween 0x30 0x7e byte then none else escapeIntermediate
  | controlEntry =>
    if isBetween 0x20 0x2f byte then controlIntermediate
    else if isBetween 0x30 0x3f byte then controlParameter
    else if isBetween 0x40 0x7e byte then none
    else controlEntry
  | controlParameter =>
    if isBetween 0x20 0x2f byte then controlIntermediate
    else if isBetween 0x3c 0x3f byte then controlIgnored
    else if isBetween 0x40 0x7e byte then none
    else controlParameter
  | controlIntermediate =>
    if isBetween 0x30 0x3f byte then controlIgnored
    else if isBetween 0x40 0x7e byte then none
    else controlIntermediate
  | controlIgnored => if isBetween 0x40 0x7e byte then none else controlIgnored
  | deviceEntry =>
    if isBetween 0x20 0x2f byte then deviceIntermediate
    else if isBetween 0x30 0x3f byte then deviceParameter
    else if isBetween 0x40 0x7e byte then deviceContent
    else deviceEntry
  | deviceParameter =>
    if isBetween 0x20 0x2f byte then deviceIntermediate
    else if isBetween 0x3c 0x3f byte then deviceIgnored
    else if isBetween 0x40 0x7e byte then deviceContent
    else deviceParameter
  | deviceIntermediate =>
    if isBetween 0x30 0x3f byte then deviceIgnored
    else if isBetween 0x40 0x7e byte then deviceContent
    else deviceIntermediate
  | deviceIgnored => deviceIgnored
  | deviceContent => if byte == 0x9c then none else deviceContent
  | commandString => commandString
  | otherString => if byte == 0x9c then none else otherString

/-- What a sequence becomes with one more byte, and whether the byte is text instead. -/
def read (sequence : Sequence) (byte : UInt8) : Sequence × Bool :=
  if byte == 0x1b then (escape, false)
  else if byte == 0x18 || byte == 0x1a then (none, false)
  else if isControlByte byte then
    if sequence == commandString && byte == 0x07 then (none, false)
    else (sequence, sequence.actsAtOnce && isBlankByte byte)
  else if sequence == none then (none, isBetween 0x20 0x7e byte || isBetween 0xc2 0xf4 byte)
  else
    -- A blank that is part of a sequence is no control character and stays in it.
    (sequence.next byte, false)

end Sequence

/-- The bytes of a text without its control sequences.  Text goes on until a control character that
is not a blank; a sequence that a blank interrupted is taken up again behind it, unless a character
beyond the first 128 stood in between. -/
def plainBytes : (inText : Bool) → Sequence → List UInt8 → List UInt8
  | _, _, [] => []
  | inText, sequence, byte :: rest =>
    if inText && byte ≥ 0x80 then byte :: plainBytes true .none rest
    else if inText && (Sequence.isBetween 0x20 0x7e byte || Sequence.isBlankByte byte) then
      byte :: plainBytes true sequence rest
    else match sequence.read byte with
      | (next, true) => byte :: plainBytes true next rest
      | (next, false) => plainBytes false next rest

def plain (text : String) : String :=
  (String.fromUTF8? ⟨(plainBytes false .none text.toUTF8.data.toList).toArray⟩).getD ""

end Text
end Instrument
