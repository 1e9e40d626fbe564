/-!
# Separated parts

A text cut at every occurrence of a separator, and parts joined by a text.  There is always at least
one part, and parts may be empty.
-/

namespace NamedKeys.Text

/-- The parts between the occurrences of a character. -/
def splitOn (separator : Char) : List Char → List (List Char)
  | [] => [[]]
  | c :: cs =>
    if c = separator then [] :: splitOn separator cs
    else
      match splitOn separator cs with
      | [] => [[c]]
      | part :: parts => (c :: part) :: parts

def joinWith (between : List Char) : List (List Char) → List Char
  | [] => []
  | [part] => part
  | part :: parts => part ++ between ++ joinWith between parts

/-- The text before the first occurrence of a character and the text after it, if there is one. -/
def cut (separator : Char) (cs : List Char) : List Char × Option (List Char) :=
  match cs.dropWhile (· ≠ separator) with
  | [] => (cs, none)
  | _ :: rest => (cs.takeWhile (· ≠ separator), some rest)

end NamedKeys.Text
