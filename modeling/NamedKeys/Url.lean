import NamedKeys.Text.Integer
import NamedKeys.Text.Quoted
import NamedKeys.Text.Utf8
import NamedKeys.Url.Host
import NamedKeys.Url.International

/-!
# URLs

A URL by its parts, the reading of a text as one, which puts each part into the form in which it is
sent, and the URL of a request with one parameter.
-/

namespace NamedKeys

/-- A URL by its parts, each in the form in which it is sent. -/
structure Url where
  scheme : List Char
  userInfo : List Char
  host : List Char
  port : Option Int
  path : List Char
  query : Option (List Char)
  fragment : Option (List Char)
  deriving DecidableEq, Repr

namespace Url

/-- Why a text is no URL. -/
inductive Fault where
  | tooLong
  | control (c : Char) (index : Nat)
  | partTooLong (part : String)
  | notFour (host : List Char)
  | notGroups (host : List Char)
  | notInternational (host : List Char)
  | port (text : List Char)
  | pathAfterHost
  | pathOfSlashes
  | pathOfColon
  deriving DecidableEq, Repr

def Fault.quoted (cs : List Char) : String :=
  Text.quoted (String.ofList cs)

def Fault.message : Fault → String
  | tooLong => "URL too long"
  | control c index =>
    "Invalid non-printable ASCII character in URL, " ++ quoted [c] ++ s!" at position {index}."
  | partTooLong part => "URL component '" ++ part ++ "' too long"
  | notFour host => "Invalid IPv4 address: " ++ quoted host
  | notGroups host => "Invalid IPv6 address: " ++ quoted host
  | notInternational host => "Invalid IDNA hostname: " ++ quoted host
  | port text => "Invalid port: " ++ quoted text
  | pathAfterHost => "For absolute URLs, path must be empty or begin with '/'"
  | pathOfSlashes => "Relative URLs cannot have a path starting with '//'"
  | pathOfColon => "Relative URLs cannot have a path starting with ':'"

/-! ## Percent signs -/

def isUnreserved (c : Char) : Bool :=
  c.isAlphanum || "-._~".toList.contains c

/-- An octet as a percent sign and two digits. -/
def percent (b : UInt8) : List Char :=
  '%' :: Text.hexDigits Text.upperHexDigit 2 b.toNat

/-- Escapes the characters of a text that are not safe. -/
def escape (isSafe : Char → Bool) (cs : List Char) : List Char :=
  cs.flatMap fun c => if isSafe c then [c] else (Text.Utf8.encodeChar c).flatMap percent

/-- Whether a character is a sign of printable ASCII that is none of the given ones. -/
def isSignBut (others : String) (c : Char) : Bool :=
  isUnreserved c || (0x20 < c.toNat && c.toNat < 0x7F && !others.toList.contains c)

def isSafeInFragment : Char → Bool :=
  isSignBut "\"<>\u0060"

def isSafeInQuery : Char → Bool :=
  isSignBut "\"#<>"

def isSafeInPath : Char → Bool :=
  isSignBut "\"#<>?\u0060\x7b\x7d"

def isSafeInUserInfo : Char → Bool :=
  isSignBut "\"#<>?\u0060\x7b\x7d/;=@[\\]^|"

def isSafeInHost : Char → Bool :=
  isSignBut "#/:<>?@[]^"

/-! ## Cutting a text -/

/-- The raw parts of a text. -/
structure Raw where
  scheme : List Char
  authority : List Char
  path : List Char
  query : Option (List Char)
  fragment : Option (List Char)
  deriving DecidableEq, Repr

/-- The part before the first colon, if it has the form of a scheme or is empty, and the rest. -/
def cutScheme (cs : List Char) : List Char × List Char :=
  let run := cs.takeWhile fun c => c.isAlphanum || "+.-".toList.contains c
  match cs.drop run.length with
  | ':' :: rest => if run.head?.all (·.isAlpha) then (run, rest) else ([], cs)
  | _ => ([], cs)

/-- The part after two slashes, up to the next part, and the rest. -/
def cutAuthority (cs : List Char) : List Char × List Char :=
  match cs with
  | '/' :: '/' :: rest => rest.span fun c => c ≠ '/' && c ≠ '?' && c ≠ '#'
  | _ => ([], cs)

/-- Cuts a text into its raw parts. -/
def Raw.ofText (cs : List Char) : Raw :=
  let (scheme, rest) := cutScheme cs
  let (authority, rest) := cutAuthority rest
  let (rest, fragment) := Text.cut '#' rest
  let (path, query) := Text.cut '?' rest
  ⟨scheme, authority, path, query, fragment⟩

/-- The part before the last at sign, the host and the port of an authority. -/
def cutHost (authority : List Char) : List Char × List Char × List Char :=
  let hostAndPort := (authority.reverse.takeWhile (· ≠ '@')).reverse
  let userInfo := authority.take (authority.length - hostAndPort.length - 1)
  let bracketed := (hostAndPort.reverse.dropWhile (· ≠ ']')).reverse
  let host :=
    if hostAndPort.head? = some '[' ∧ bracketed ≠ [] then bracketed
    else hostAndPort.takeWhile (· ≠ ':')
  let rest := hostAndPort.drop host.length
  (userInfo, host, if rest.head? = some ':' then rest.drop 1 else rest)

/-! ## Reading the parts -/

/-- The form in which a host is sent. -/
def readHost (host : List Char) : Except Fault (List Char) :=
  if host = [] then .ok []
  else if Host.looksLikeFour host then
    if Host.isFour host then .ok host else .error (.notFour host)
  else if Host.isBracketed host then
    let inner := (host.drop 1).dropLast
    if Host.isGrouped inner then .ok inner else .error (.notGroups host)
  else if host.all (·.toNat < 0x80) then .ok (escape isSafeInHost (host.map Char.toLower))
  else
    match International.encode? host with
    | some ascii => .ok ascii
    | none => .error (.notInternational host)

/-- The ports that need not be named, by scheme. -/
def usualPorts : List (String × Int) :=
  [("ftp", 21), ("http", 80), ("https", 443), ("ws", 80), ("wss", 443)]

/-- The port of a text, unless it is the usual one of the scheme. -/
def readPort (scheme text : List Char) : Except Fault (Option Int) :=
  if text = [] then .ok none
  else
    match Text.readInteger? 10 text with
    | none => .error (.port text)
    | some port =>
      .ok (if usualPorts.lookup (String.ofList scheme) = some port then none else some port)

/-- Whether a path may follow a scheme and a host that are there or not. -/
def checkPath (hasScheme hasHost : Bool) (path : List Char) : Except Fault Unit :=
  if hasHost && path ≠ [] && path.head? ≠ some '/' then .error .pathAfterHost
  else if !hasScheme && !hasHost && ['/', '/'].isPrefixOf path then .error .pathOfSlashes
  else if !hasScheme && !hasHost && path.head? = some ':' then .error .pathOfColon
  else .ok ()

/-- Adds a part to those before it.  A single dot adds nothing, and a double dot takes the part before
it away, unless this is a leading empty part. -/
def addPart (done : List (List Char)) (part : List Char) : List (List Char) :=
  if part = ['.'] then done
  else if part = ['.', '.'] then if done = [[]] then done else done.dropLast
  else done ++ [part]

/-- Leaves out single dots and, with the part before each, double dots. -/
def resolveDots (parts : List (List Char)) : List (List Char) :=
  parts.foldl addPart []

/-- A path without single and double dots. -/
def readPath (path : List Char) : List Char :=
  Text.joinWith ['/'] (resolveDots (Text.splitOn '/' path))

/-- The URL of raw parts. -/
def ofRaw (raw : Raw) : Except Fault Url := do
  let (userInfo, host, port) := cutHost raw.authority
  let scheme := raw.scheme.map Char.toLower
  let userInfo := escape isSafeInUserInfo userInfo
  let host ← readHost host
  let port ← readPort raw.scheme port
  let hasScheme := scheme ≠ []
  let hasHost := userInfo ≠ [] || host ≠ [] || port.isSome
  checkPath hasScheme hasHost raw.path
  let path := if hasScheme || hasHost then readPath raw.path else raw.path
  return {
    scheme, userInfo, host, port
    path := escape isSafeInPath path
    query := raw.query.map (escape isSafeInQuery)
    fragment := raw.fragment.map (escape isSafeInFragment) }

/-- The most characters of a URL and of each of its parts. -/
def mostCharacters : Nat := 65536

def isControl (c : Char) : Bool :=
  c.toNat < 0x20 || c.toNat = 0x7F

/-- The URL that a text writes. -/
def ofText (cs : List Char) : Except Fault Url :=
  if cs.length > mostCharacters then .error .tooLong
  else
    match cs.dropWhile (!isControl ·) with
    | c :: _ => .error (.control c (cs.takeWhile (!isControl ·)).length)
    | [] => ofRaw (.ofText cs)

/-! ## Writing -/

/-- What stands between the scheme and the path. -/
def authority (url : Url) : List Char :=
  (if url.userInfo = [] then [] else url.userInfo ++ ['@']) ++
    (if url.host.contains ':' then '[' :: url.host ++ [']'] else url.host) ++
    (match url.port with
      | some port => ':' :: (toString port).toList
      | none => [])

def text (url : Url) : String :=
  let authority := url.authority
  String.ofList <|
    (if url.scheme = [] then [] else url.scheme ++ [':']) ++
      (if authority = [] then [] else '/' :: '/' :: authority) ++ url.path ++
      ((url.query.map ('?' :: ·)).getD []) ++ ((url.fragment.map ('#' :: ·)).getD [])

/-! ## Requests -/

/-- Whether a URL names a host to send a request to. -/
def isAbsolute (url : Url) : Bool :=
  url.scheme ≠ [] && url.host ≠ []

/-- The raw parts of a URL, none of which may be too long. -/
def raw (url : Url) : Except Fault Raw := do
  let isTooLong := fun (cs : List Char) => cs.length > mostCharacters
  if isTooLong url.scheme then throw (.partTooLong "scheme")
  if isTooLong url.authority then throw (.partTooLong "authority")
  if isTooLong url.path then throw (.partTooLong "path")
  if url.query.any isTooLong then throw (.partTooLong "query")
  if url.fragment.any isTooLong then throw (.partTooLong "fragment")
  return ⟨url.scheme, url.authority, url.path, url.query, url.fragment⟩

/-- A URL with only the path and the query of another, where the path begins with one slash. -/
def relative (url : Url) : Url where
  scheme := []
  userInfo := []
  host := []
  port := none
  path := '/' :: url.path.dropWhile (· = '/')
  query := url.query
  fragment := none

/-- The text of a parameter's value: a blank becomes a plus sign. -/
def parameterText (value : String) : List Char :=
  value.toList.flatMap fun c => if c = ' ' then ['+'] else escape isUnreserved [c]

/-- The URL of a request with one parameter, which takes the place of the query. -/
def request (cs : List Char) (name value : String) : Except Fault Url := do
  let url ← ofText cs
  let url ← if url.isAbsolute then pure url else ofRaw (← url.relative.raw)
  ofRaw (← { url with query := some (name.toList ++ '=' :: parameterText value) }.raw)

end Url

end NamedKeys
