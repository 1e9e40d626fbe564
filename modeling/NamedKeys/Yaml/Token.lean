import NamedKeys.Table
import NamedKeys.Text.Utf8
import NamedKeys.Yaml.Scalar

/-!
# Tokens

A document as tokens.  Indentation becomes tokens too: a column that grows opens a collection, and
one that shrinks closes as many as it leaves.  Whether a scalar or a flow collection is a key is seen
only at the colon after it, so the places where a key may have begun are remembered, one for each
level of flow collections, and the tokens that open it are put in afterwards.
-/

namespace NamedKeys.Yaml

/-- A line before a document that tells how to read it. -/
inductive Directive where
  | version (major minor : Nat)
  | tag (handle tagPrefix : String)
  | other
  deriving DecidableEq, Repr

/-- The tokens of a document. -/
inductive Token where
  | directive (directive : Directive)
  | documentStart
  | documentEnd
  | blockSequenceStart
  | blockMappingStart
  | blockEnd
  | flowSequenceStart
  | flowSequenceEnd
  | flowMappingStart
  | flowMappingEnd
  | blockEntry
  | flowEntry
  | key
  | value
  | alias (name : String)
  | anchor (name : String)
  | tag (handle : Option String) (suffix : String)
  | scalar (text : List Char) (isPlain : Bool)
  /-- The place where the text cannot be read on. -/
  | fault (fault : Fault)
  deriving DecidableEq, Repr

/-- A place where a key may have begun: the number of tokens before it, whether it must turn out to
be a key, and its position. -/
structure KeyPlace where
  tokens : Nat
  isRequired : Bool
  index : Nat
  line : Nat
  column : Nat
  deriving DecidableEq, Repr

/-- The greatest distance between the beginning of a key and its colon. -/
def longestKey : Nat := 1024

/-- The state in which a document is cut into tokens. -/
structure Lexer where
  here : Cursor
  /-- The number of open flow collections. -/
  flow : Nat
  /-- The column of the open block collection, and those of the ones around it. -/
  indent : Int
  outer : List Int
  /-- Whether a key may begin here. -/
  allowsKey : Bool
  /-- The places where keys may have begun, by level. -/
  keys : Table Nat KeyPlace
  /-- The tokens so far, the last first. -/
  tokens : List Token
  deriving DecidableEq, Repr

namespace Lexer

def start (cs : List Char) : Lexer :=
  ⟨.start cs, 0, -1, [], true, [], []⟩

def push (lexer : Lexer) (token : Token) : Lexer :=
  { lexer with tokens := token :: lexer.tokens }

/-- Adds a token before those that came after the first `count`. -/
def insert (lexer : Lexer) (count : Nat) (token : Token) : Lexer :=
  { lexer with tokens := lexer.tokens.insertIdx (lexer.tokens.length - count) token }

/-- Adds a token for the next `n` characters. -/
def take (lexer : Lexer) (n : Nat) (token : Token) : Lexer :=
  { lexer.push token with here := lexer.here.skip n }

/-! ## Blanks, comments and indentation -/

/-- Passes over spaces, comments and ends of lines; in a block, a key may begin on a new line. -/
def skipBlanks : (fuel : Nat) → Lexer → Lexer
  | 0, lexer => lexer
  | fuel + 1, lexer =>
    let here := lexer.here.skipWhile (· = ' ')
    let here := if here.at? '#' then here.skipWhile (!isBreak ·) else here
    match here.lineBreak? with
    | none => { lexer with here }
    | some (_, next) =>
      skipBlanks fuel { lexer with here := next, allowsKey := lexer.allowsKey || lexer.flow = 0 }

/-- Passes over a byte order mark at the beginning and over blanks. -/
def toNext (lexer : Lexer) : Lexer :=
  let lexer :=
    if lexer.here.index = 0 && lexer.here.at? '\uFEFF' then { lexer with here := lexer.here.advance }
    else lexer
  skipBlanks (lexer.here.rest.length + 1) lexer

/-- Whether a place is on an earlier line or too far away for a key. -/
def isStale (lexer : Lexer) (place : KeyPlace) : Bool :=
  place.line ≠ lexer.here.line || lexer.here.index > place.index + longestKey

/-- Forgets the places of keys that begin on an earlier line or too far away. -/
def forgetStale (lexer : Lexer) : Except Fault Lexer :=
  if lexer.keys.any fun key => lexer.isStale key.2 && key.2.isRequired then .error .malformed
  else .ok { lexer with keys := lexer.keys.filter fun key => !lexer.isStale key.2 }

/-- The tokens that no later one can come before, the last first: those before all places where a
key may have begun. -/
def settled (lexer : Lexer) : List Token :=
  let places := (lexer.keys.map (·.2)).filter (!lexer.isStale ·)
  let count := places.foldl (fun count place => min count place.tokens) lexer.tokens.length
  lexer.tokens.drop (lexer.tokens.length - count)

/-- Forgets the place of a key at the level of the position. -/
def forgetKey (lexer : Lexer) : Except Fault Lexer :=
  match lexer.keys.lookup lexer.flow with
  | some place =>
    if place.isRequired then .error .malformed
    else .ok { lexer with keys := lexer.keys.remove lexer.flow }
  | none => .ok lexer

/-- Remembers that a key may begin here, if one may. -/
def rememberKey (lexer : Lexer) : Except Fault Lexer :=
  if lexer.allowsKey then do
    let lexer ← lexer.forgetKey
    let here := lexer.here
    let isRequired := lexer.flow = 0 && lexer.indent = here.column
    let place := ⟨lexer.tokens.length, isRequired, here.index, here.line, here.column⟩
    return { lexer with keys := (lexer.flow, place) :: lexer.keys }
  else .ok lexer

/-- Closes the block collections that begin to the right of a column. -/
def unindent (column : Int) : List Int → Lexer → Lexer
  | [], lexer => lexer
  | indent :: outer, lexer =>
    if lexer.indent > column then unindent column outer { lexer.push .blockEnd with indent, outer }
    else lexer

/-- Closes the block collections that begin to the right of a column, outside flow collections. -/
def closeTo (lexer : Lexer) (column : Int) : Lexer :=
  if lexer.flow = 0 then unindent column lexer.outer lexer else lexer

/-- Whether a block collection begins at a column: whether it is to the right of the open one. -/
def opensAt (lexer : Lexer) (column : Nat) : Bool :=
  lexer.indent < column

def openAt (lexer : Lexer) (column : Nat) : Lexer :=
  { lexer with indent := column, outer := lexer.indent :: lexer.outer }

/-- Opens a block collection at the position unless one is open there. -/
def ensureBlock (lexer : Lexer) (token : Token) : Lexer :=
  if lexer.opensAt lexer.here.column then (lexer.openAt lexer.here.column).push token else lexer

/-! ## Directives, anchors and tags -/

/-- A number in decimal digits, at least one. -/
def number (here : Cursor) : Except Fault (Nat × Cursor) :=
  let (digits, next) := here.span (·.isDigit)
  if digits = [] then .error .malformed
  else if digits.length > 4300 then .error (.value .impossible)
  else .ok (digits.foldl (fun n c => 10 * n + (c.toNat - 48)) 0, next)

/-- A handle of tags: an exclamation mark, or name characters between two. -/
def tagHandle (here : Cursor) : Except Fault (String × Cursor) :=
  if here.at? '!' then
    let (name, next) := here.advance.span isWordChar
    if next.at? '!' then .ok (String.ofList ('!' :: name ++ ['!']), next.advance)
    else if name = [] && next.at? ' ' then .ok ("!", next)
    else .error .malformed
  else .error .malformed

def isTagChar (c : Char) : Bool :=
  c.isAlphanum || "-;/?:@&=+$,_.!~*'()[]".toList.contains c

/-- A run of characters of a tag, in which octets may be given by number. -/
def tagText : (fuel : Nat) → Cursor → Except Fault (List Char × Cursor)
  | 0, here => .ok ([], here)
  | fuel + 1, here =>
    match here.rest with
    | '%' :: _ => do
      let (octets, next) ← tagOctets (here.rest.length) here
      match Text.Utf8.decode? octets with
      | none => .error .malformed
      | some cs =>
        let (more, last) ← tagText fuel next
        return (cs ++ more, last)
    | c :: _ =>
      if isTagChar c then (tagText fuel here.advance).map fun (more, last) => (c :: more, last)
      else .ok ([], here)
    | [] => .ok ([], here)
where
  /-- Octets given by number. -/
  tagOctets : (fuel : Nat) → Cursor → Except Fault (List UInt8 × Cursor)
    | 0, here => .ok ([], here)
    | fuel + 1, here =>
      match here.rest with
      | '%' :: c :: d :: _ =>
        match Text.ofHexDigits? [c, d] with
        | some n => (tagOctets fuel (here.skip 3)).map fun (bs, last) => (UInt8.ofNat n :: bs, last)
        | none => .error .malformed
      | '%' :: _ => .error .malformed
      | _ => .ok ([], here)

/-- A run of characters of a tag, at least one. -/
def tagTextSome (here : Cursor) : Except Fault (String × Cursor) := do
  let (text, next) ← tagText here.rest.length here
  if here.rest.length = next.rest.length then throw .malformed
  return (String.ofList text, next)

/-- A directive, of which the percent sign has been read. -/
def directive (here : Cursor) : Except Fault (Directive × Cursor) := do
  let (name, next) := here.span isWordChar
  if name = [] || !isSpaced next.rest then throw .malformed
  let (directive, next) ←
    match String.ofList name with
    | "YAML" => do
      let (major, next) ← number (next.skipWhile (· = ' '))
      if !next.at? '.' then throw .malformed
      let (minor, next) ← number next.advance
      if !isSpaced next.rest then throw .malformed
      pure (Directive.version major minor, next)
    | "TAG" => do
      let (handle, next) ← tagHandle (next.skipWhile (· = ' '))
      if !next.at? ' ' then throw .malformed
      let (tagPrefix, next) ← tagTextSome (next.skipWhile (· = ' '))
      if !isSpaced next.rest then throw .malformed
      pure (Directive.tag handle tagPrefix, next)
    | _ => pure (Directive.other, next.skipWhile (!isBreak ·))
  return (directive, ← restOfLine next)

/-- The name of an anchor or an alias, of which the first character has been read. -/
def anchorName (here : Cursor) : Except Fault (String × Cursor) :=
  let (name, next) := here.span isWordChar
  if name = [] then .error .malformed
  else if isSeparated next.rest || next.rest.head?.any ("?:,]\x7d%@`".toList.contains ·) then
    .ok (String.ofList name, next)
  else .error .malformed

/-- A tag: its handle, if it has one, and the rest. -/
def tag (here : Cursor) : Except Fault (Option String × String × Cursor) := do
  let next := here.advance
  let (handle, suffix, last) ←
    if next.at? '<' then do
      let (suffix, last) ← tagTextSome next.advance
      if !last.at? '>' then throw .malformed
      pure (none, suffix, last.advance)
    else if isSeparated next.rest then pure (none, "!", next)
    else do
      let word := next.rest.takeWhile fun c => c ≠ ' ' && !isBreak c
      let (handle, next) ← if word.contains '!' then tagHandle here else pure ("!", next)
      let (suffix, last) ← tagTextSome next
      pure (some handle, suffix, last)
  if !isSpaced last.rest then throw .malformed
  return (handle, suffix, last)

/-! ## Tokens -/

/-- A mark between documents or a directive: everything open is closed. -/
def closeAll (lexer : Lexer) : Except Fault Lexer := do
  let lexer ← (lexer.closeTo (-1)).forgetKey
  return { lexer with allowsKey := false }

/-- The first character of a flow collection, which may be a key. -/
def openFlow (lexer : Lexer) (token : Token) : Except Fault Lexer := do
  let lexer ← lexer.rememberKey
  return { lexer.take 1 token with flow := lexer.flow + 1, allowsKey := true }

/-- The last character of a flow collection. -/
def closeFlow (lexer : Lexer) (token : Token) : Except Fault Lexer := do
  let lexer ← lexer.forgetKey
  if lexer.flow = 0 then throw .malformed
  return { lexer.take 1 token with flow := lexer.flow - 1, allowsKey := false }

/-- A comma of a flow collection. -/
def flowEntry (lexer : Lexer) : Except Fault Lexer := do
  let lexer ← lexer.forgetKey
  return { lexer.take 1 .flowEntry with allowsKey := true }

/-- A hyphen before an entry of a sequence. -/
def blockEntry (lexer : Lexer) : Except Fault Lexer := do
  if lexer.flow = 0 && !lexer.allowsKey then throw .malformed
  let lexer := if lexer.flow = 0 then lexer.ensureBlock .blockSequenceStart else lexer
  let lexer ← { lexer with allowsKey := true }.forgetKey
  return lexer.take 1 .blockEntry

/-- A question mark before a key. -/
def explicitKey (lexer : Lexer) : Except Fault Lexer := do
  if lexer.flow = 0 && !lexer.allowsKey then throw .malformed
  let lexer := if lexer.flow = 0 then lexer.ensureBlock .blockMappingStart else lexer
  let lexer ← { lexer with allowsKey := lexer.flow = 0 }.forgetKey
  return lexer.take 1 .key

/-- A colon before a value: after a key whose place is remembered, or on its own. -/
def entryValue (lexer : Lexer) : Except Fault Lexer :=
  match lexer.keys.lookup lexer.flow with
  | some place =>
    let lexer := { lexer with keys := lexer.keys.remove lexer.flow }
    let lexer := lexer.insert place.tokens .key
    let lexer :=
      if lexer.flow = 0 && lexer.opensAt place.column then
        (lexer.openAt place.column).insert place.tokens .blockMappingStart
      else lexer
    .ok { lexer.take 1 .value with allowsKey := false }
  | none => do
    if lexer.flow = 0 && !lexer.allowsKey then throw .malformed
    let lexer := if lexer.flow = 0 then lexer.ensureBlock .blockMappingStart else lexer
    let lexer ← { lexer with allowsKey := lexer.flow = 0 }.forgetKey
    return lexer.take 1 .value

/-- A token that may be a key, with the position after it. -/
def keyToken (lexer : Lexer) (token : Token) (next : Cursor) : Except Fault Lexer := do
  let lexer ← lexer.rememberKey
  return { lexer.push token with here := next, allowsKey := false }

/-- A block scalar, after which a key may begin. -/
def block (lexer : Lexer) (isFolded : Bool) : Except Fault Lexer := do
  let lexer ← lexer.forgetKey
  let (text, next) ← blockScalar isFolded lexer.indent lexer.here.advance
  return { lexer.push (.scalar text false) with here := next, allowsKey := true }

/-- Whether a plain scalar may begin with a text. -/
def startsPlain (inFlow : Bool) : List Char → Bool
  | [] => false
  | c :: cs =>
    !(isSeparator c || "-?:,[]\x7b\x7d#&*!|>'\"%@`".toList.contains c) ||
      (!isSeparated cs && (c = '-' || (!inFlow && (c = '?' || c = ':'))))

/-- Reads the token at a position that is neither blank nor the end. -/
def token (lexer : Lexer) (c : Char) (cs : List Char) : Except Fault Lexer :=
  let here := lexer.here
  let inFlow := lexer.flow ≠ 0
  let isFirst := here.column = 0
  if c = '%' && isFirst then do
    let lexer ← lexer.closeAll
    let (directive, next) ← directive here.advance
    return { lexer.push (.directive directive) with here := next }
  else if c = '-' && isFirst && startsMarker here.rest then
    lexer.closeAll.map (·.take 3 .documentStart)
  else if c = '.' && isFirst && startsMarker here.rest then
    lexer.closeAll.map (·.take 3 .documentEnd)
  else if c = '[' then lexer.openFlow .flowSequenceStart
  else if c = '{' then lexer.openFlow .flowMappingStart
  else if c = ']' then lexer.closeFlow .flowSequenceEnd
  else if c = '}' then lexer.closeFlow .flowMappingEnd
  else if c = ',' then lexer.flowEntry
  else if c = '-' && isSeparated cs then lexer.blockEntry
  else if c = '?' && (inFlow || isSeparated cs) then lexer.explicitKey
  else if c = ':' && (inFlow || isSeparated cs) then lexer.entryValue
  else if c = '*' then do
    let (name, next) ← anchorName here.advance
    lexer.keyToken (.alias name) next
  else if c = '&' then do
    let (name, next) ← anchorName here.advance
    lexer.keyToken (.anchor name) next
  else if c = '!' then do
    let (handle, suffix, next) ← tag here
    lexer.keyToken (.tag handle suffix) next
  else if c = '|' && !inFlow then lexer.block false
  else if c = '>' && !inFlow then lexer.block true
  else if c = '\'' || c = '"' then do
    let (text, next) ← quotedScalar (c = '"') (cs.length + 1) here.advance
    lexer.keyToken (.scalar text false) next
  else if startsPlain inFlow here.rest then do
    let (text, next, broken) := plainScalar inFlow (lexer.indent + 1).toNat here.rest.length here
    let lexer ← lexer.keyToken (.scalar text true) next
    return { lexer with allowsKey := broken }
  else throw .malformed

/-- Reads tokens to the end of the text, or to where it cannot be read on; of the tokens before that
place only the settled ones are given. -/
def run : (fuel : Nat) → Lexer → List Token
  | 0, lexer => (Token.fault .malformed :: lexer.tokens).reverse
  | fuel + 1, lexer =>
    let ahead := lexer.toNext
    let step := do
      let ahead ← ahead.forgetStale
      let ahead := ahead.closeTo ahead.here.column
      match ahead.here.rest with
      | [] => (ahead.closeTo (-1)).forgetKey.map fun last => (last, true)
      | c :: cs => (ahead.token c cs).map fun next => (next, false)
    match step with
    | .ok (last, true) => last.tokens.reverse
    | .ok (next, false) => run fuel next
    | .error fault => (Token.fault fault :: lexer.settled).reverse

end Lexer

/-- The tokens of a document. -/
def tokens (cs : List Char) : List Token :=
  if cs.all isReadable then Lexer.run (cs.length + 1) (.start cs)
  else [.fault .malformed]

end NamedKeys.Yaml
