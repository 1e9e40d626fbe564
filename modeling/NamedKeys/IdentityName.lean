import NamedKeys.Failure

/-!
# Names of identities

Which texts are names.  A name is a text that has passed the test, so that whatever takes a name
need not test it again.
-/

namespace NamedKeys

/-- Whether a character may occur in a name: a letter, a digit, a hyphen or a low line of ASCII. -/
def isNameChar (c : Char) : Bool :=
  c.isAlphanum || c = '-' || c = '_'

/-- Whether a text has the form of a name: 1 to 250 name characters; one line feed may end it. -/
def isNameForm (cs : List Char) : Bool :=
  let body := if cs.getLast? = some '\n' then cs.dropLast else cs
  1 ≤ body.length && body.length ≤ 250 && body.all isNameChar

/-- A name of an identity. -/
structure IdentityName where
  text : String
  hasForm : isNameForm text.toList = true

def IdentityName.ofText (text : String) : Except Failure IdentityName :=
  if h : isNameForm text.toList = true then .ok ⟨text, h⟩ else .error (.identityName text)

end NamedKeys
