import NamedKeys.Failure
import NamedKeys.Text.Utf8

/-!
# Clients

What sends a request and what becomes of it: an answer, or something raised.  What is raised is told
apart by its class and the classes above it, which form a tree; an answer is read as a text in the
character set that it declares.
-/

namespace NamedKeys

/-- What a client raises: the name of its class, those of the classes above, the nearest first, and
its text. -/
structure Raised where
  className : String
  above : List String
  text : String
  deriving DecidableEq, Repr

namespace Raised

def isA (raised : Raised) (name : String) : Bool :=
  (raised.className :: raised.above).contains name

/-- The classes of what says that the service was not reached. -/
def unreached : List String :=
  ["HTTPError", "InvalidURL", "StreamError"]

def isUnreached (raised : Raised) : Bool :=
  unreached.any raised.isA

/-- What is raised as a failure that nobody handles. -/
def failure (raised : Raised) : Failure :=
  if raised.className = "OSError" then .file (.refused raised.text)
  else .foreign raised.className raised.text

/-- The classes of a client's failures that are below others, each with the one next above it, the
lowest first. -/
def tree : List (String × String) := [
  ("ConnectTimeout", "TimeoutException"), ("ReadTimeout", "TimeoutException"),
  ("WriteTimeout", "TimeoutException"), ("PoolTimeout", "TimeoutException"),
  ("ConnectError", "NetworkError"), ("ReadError", "NetworkError"),
  ("WriteError", "NetworkError"), ("CloseError", "NetworkError"),
  ("LocalProtocolError", "ProtocolError"), ("RemoteProtocolError", "ProtocolError"),
  ("TimeoutException", "TransportError"), ("NetworkError", "TransportError"),
  ("ProtocolError", "TransportError"), ("ProxyError", "TransportError"),
  ("UnsupportedProtocol", "TransportError"),
  ("TransportError", "RequestError"), ("DecodingError", "RequestError"),
  ("TooManyRedirects", "RequestError"),
  ("RequestError", "HTTPError"), ("HTTPStatusError", "HTTPError"),
  ("StreamConsumed", "StreamError"), ("StreamClosed", "StreamError"),
  ("ResponseNotRead", "StreamError"), ("RequestNotRead", "StreamError")]

/-- Adds the class above the highest of some classes above one, if an entry of the tree tells it. -/
def climb (name : String) (above : List String) (entry : String × String) : List String :=
  if above.getLastD name = entry.1 then above ++ [entry.2] else above

/-- The classes above one, the nearest first. -/
def classesAbove (name : String) : List String :=
  tree.foldl (climb name) []

/-- What is raised with a class of the tree, or with one that is below no other. -/
def ofName (name text : String) : Raised :=
  ⟨name, classesAbove name, text⟩

end Raised

/-! ## Answers -/

/-- How octets are read in a character set: as a text, or not at all. -/
abbrev Decoder := List UInt8 → Except Raised (List Char)

/-- The decoders of the character sets that are known, by name. -/
abbrev Decoders := String → Option Decoder

/-- An answer to a request, with the character set that it declares. -/
structure Response where
  status : Nat
  charset : Option String
  body : List UInt8

/-- UTF-8, with a mark in the place of what is none. -/
def Decoder.utf8 : Decoder := fun octets =>
  .ok (Text.Utf8.decodeLossy octets)

/-- How an answer is read: in the character set that it declares, and else, also if that one is not known,
in the fallback. -/
def Response.decoder (decoders : Decoders) (fallback : Decoder) (response : Response) : Decoder :=
  (response.charset.bind decoders).getD fallback

/-- The text of an answer.  An empty answer is not decoded. -/
def Response.text (decoders : Decoders) (fallback : Decoder) (response : Response) :
    Except Raised (List Char) :=
  if response.body = [] then .ok []
  else response.decoder decoders fallback response.body

/-- A client, by what becomes of a request that it sends, how it reads answers that declare no character
set that is known, and what closing it raises. -/
structure Client where
  outcome : Except Raised Response
  fallback : Decoder
  closing : Option Raised

/-- A client as it is opened if no other character set is asked for. -/
def Client.inUtf8 (client : Client) : Client :=
  { client with fallback := .utf8 }

end NamedKeys
