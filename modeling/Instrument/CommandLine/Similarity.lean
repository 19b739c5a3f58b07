/-!
# Similar words

How similar two words are is measured by the characters they have in common at about the same
place, and by how many of those are out of order.  The measure lies between zero and one.
-/

namespace Instrument
namespace CommandLine

/-- Mark the first character equal to a given one that is not marked yet, among those whose places
lie between two bounds. -/
def claim (wanted : Char) (lower upper place : Nat) :
    List (Char × Bool) → Option (List (Char × Bool))
  | [] => none
  | (character, isMarked) :: rest =>
    if lower ≤ place && place < upper && character == wanted && !isMarked then
      some ((character, true) :: rest)
    else (claim wanted lower upper (place + 1) rest).map ((character, isMarked) :: ·)

/-- The characters of a word that have a counterpart in another one, in order, and the other word
with the counterparts marked. -/
def counterparts (range place : Nat) :
    List Char → List (Char × Bool) → List Char × List (Char × Bool)
  | [], other => ([], other)
  | first :: rest, other =>
    match claim first (place - range) (place + range + 1) 0 other with
    | some marked =>
      let (found, left) := counterparts range (place + 1) rest marked
      (first :: found, left)
    | none => counterparts range (place + 1) rest other

def similarity (first second : String) : Float :=
  let left := first.toList
  let right := second.toList
  if left.isEmpty && right.isEmpty then 1.0
  else if left.isEmpty || right.isEmpty then 0.0
  else
    let range := max left.length right.length / 2 - 1
    let (found, marked) := counterparts range 0 left (right.map fun character => (character, false))
    let matched := (marked.filter Prod.snd).map Prod.fst
    let outOfOrder := (found.zip matched).countP (fun pair => pair.1 != pair.2) / 2
    let count := found.length
    if count == 0 then 0.0
    else
      (count.toFloat / left.length.toFloat + count.toFloat / right.length.toFloat +
        (count - outOfOrder).toFloat / count.toFloat) / 3.0

/-- Put a word with its similarity behind those that are not more similar. -/
def insertBySimilarity (candidate : Float × String) :
    List (Float × String) → List (Float × String)
  | [] => [candidate]
  | first :: rest =>
    if candidate.1 < first.1 then candidate :: first :: rest
    else first :: insertBySimilarity candidate rest

/-- The words that may have been meant by a given one, the likeliest last. -/
def similarWords (word : String) (known : List String) : List String :=
  let candidates := known.filterMap fun candidate =>
    let value := similarity word candidate
    if 0.7 < value then some (value, candidate) else none
  (candidates.foldl (fun sorted candidate => insertBySimilarity candidate sorted) []).map Prod.snd

end CommandLine
end Instrument
