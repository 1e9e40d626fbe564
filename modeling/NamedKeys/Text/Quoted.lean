import NamedKeys.Text.Digits
import NamedKeys.Text.Printable

/-!
# Quoted texts

The form in which messages show a text, octets or a list of texts: between quotes, with escapes for
the quote, the backslash and what is not printable.  The quotes are single unless the text holds
single quotes and no double ones.
-/

namespace NamedKeys.Text

def quoteFor (cs : List Char) : Char :=
  if cs.contains '\'' && !cs.contains '"' then '"' else '\''

/-- The escape of a character by its number: two, four or eight hexadecimal digits. -/
def escapeNumber (n : Nat) : List Char :=
  if n ≤ 0xFF then '\\' :: 'x' :: hexDigits lowerHexDigit 2 n
  else if n ≤ 0xFFFF then '\\' :: 'u' :: hexDigits lowerHexDigit 4 n
  else '\\' :: 'U' :: hexDigits lowerHexDigit 8 n

/-- A character between the given quotes. -/
def quoteChar (quote c : Char) : List Char :=
  if c = quote ∨ c = '\\' then ['\\', c]
  else if c = '\t' then ['\\', 't']
  else if c = '\n' then ['\\', 'n']
  else if c = '\r' then ['\\', 'r']
  else if isPrintable c then [c]
  else escapeNumber c.toNat

def quoteChars (cs : List Char) : List Char :=
  let quote := quoteFor cs
  quote :: cs.flatMap (quoteChar quote) ++ [quote]

def quoted (text : String) : String :=
  String.ofList (quoteChars text.toList)

/-- An octet between the given quotes: ASCII signs as they are, the others by number. -/
def quoteOctet (quote : Char) (b : UInt8) : List Char :=
  let c := Char.ofNat b.toNat
  if b.toNat < 0x7F then quoteChar quote c else escapeNumber b.toNat

/-- Octets between quotes, with the letter `b` before them. -/
def quotedOctets (octets : List UInt8) : String :=
  let quote := quoteFor (octets.map fun b => Char.ofNat b.toNat)
  String.ofList ('b' :: quote :: octets.flatMap (quoteOctet quote) ++ [quote])

def quotedList (texts : List String) : String :=
  "[" ++ ", ".intercalate (texts.map quoted) ++ "]"

end NamedKeys.Text
