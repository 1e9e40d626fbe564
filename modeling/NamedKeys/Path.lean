import NamedKeys.Text.Split

/-!
# Paths

Paths as texts name them: from the root, or from wherever the reader is.  Empty names and single
dots are left out, double dots are kept, and the parent of a path is found without looking at any
folder.
-/

namespace NamedKeys

/-- A path: what stands before the first name, which is empty, `/` or `//`, and the names. -/
structure Path where
  anchor : String
  names : List String
  deriving DecidableEq, Repr

namespace Path

/-- What stands before the first name: two slashes count as a root of their own, any other number
of them as one. -/
def anchorOf (cs : List Char) : String :=
  match (cs.takeWhile (· = '/')).length with
  | 0 => ""
  | 2 => "//"
  | _ => "/"

def ofText (text : String) : Path where
  anchor := anchorOf text.toList
  names := ((Text.splitOn '/' text.toList).map String.ofList).filter fun name =>
    name ≠ "" && name ≠ "."

/-- The text of a path; a path without root and names is a dot. -/
def text (path : Path) : String :=
  if path.anchor = "" ∧ path.names = [] then "."
  else path.anchor ++ "/".intercalate path.names

def isAbsolute (path : Path) : Bool :=
  path.anchor ≠ ""

def child (path : Path) (name : String) : Path :=
  { path with names := path.names ++ [name] }

/-- The path without its last name; a path without names is its own parent. -/
def parent (path : Path) : Path :=
  { path with names := path.names.dropLast }

@[simp] theorem parent_child (path : Path) (name : String) : (path.child name).parent = path := by
  rw [parent, child, List.dropLast_concat]

/-- A name without its last ending: what stands before the last dot, unless the dot is the first
or the last character. -/
def stem (name : String) : String :=
  let ending := name.toList.reverse.takeWhile (· ≠ '.')
  let before := (name.toList.reverse.drop (ending.length + 1)).reverse
  if ending = [] ∨ before = [] then name else String.ofList before

end Path

end NamedKeys
