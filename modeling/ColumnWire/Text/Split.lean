/-!
# Cutting texts

Cuts at the first, the last, and every occurrence of a separator. The separator itself belongs to no
part.
-/

namespace ColumnWire.Text

/-- The parts before and behind the first `c`. -/
def splitFirst (c : Char) : List Char → Option (List Char × List Char)
  | [] => none
  | x :: rest =>
    if x = c then some ([], rest) else (splitFirst c rest).map fun p => (x :: p.1, p.2)

/-- The parts before and behind the last `c`. -/
def splitLast (c : Char) (s : List Char) : Option (List Char × List Char) :=
  (splitFirst c s.reverse).map fun p => (p.2.reverse, p.1.reverse)

/-- The parts between the occurrences of `c`; a text without any is one part. -/
def splitEvery (c : Char) : List Char → List (List Char)
  | [] => [[]]
  | x :: rest =>
    if x = c then [] :: splitEvery c rest
    else
      match splitEvery c rest with
      | [] => [[x]]
      | part :: more => (x :: part) :: more

/-- The parts before and behind the first occurrence of a text. -/
def splitAtText (separator : List Char) : List Char → Option (List Char × List Char)
  | [] => if separator.isEmpty then some ([], []) else none
  | x :: rest =>
    if separator.isPrefixOf (x :: rest) then some ([], (x :: rest).drop separator.length)
    else (splitAtText separator rest).map fun p => (x :: p.1, p.2)

/-- The parts with a separator between them. -/
def joinWith (separator : List Char) : List (List Char) → List Char
  | [] => []
  | [part] => part
  | part :: more => part ++ separator ++ joinWith separator more

end ColumnWire.Text
