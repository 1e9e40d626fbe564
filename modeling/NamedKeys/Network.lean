import NamedKeys.Client
import NamedKeys.Url
import NamedKeys.World

/-!
# Networks and funding

The known networks, and the request that asks the friendbot of a network to fund an address.  An
address counts as funded when the answer says so or says that the account is there already.
-/

namespace NamedKeys

/-- A network; its friendbot is the service that funds addresses. -/
structure Network where
  name : String
  rpcUrl : String
  passphrase : String
  friendbotUrl : Option String
  deriving DecidableEq, Repr

namespace Network

def known : List Network := [
  ⟨"testnet", "https://soroban-testnet.stellar.org", "Test SDF Network ; September 2015",
    some "https://friendbot.stellar.org/"⟩,
  ⟨"futurenet", "https://rpc-futurenet.stellar.org", "Test SDF Future Network ; October 2022",
    some "https://friendbot-futurenet.stellar.org/"⟩,
  ⟨"local", "http://localhost:8000/rpc", "Standalone Network ; February 2017",
    some "http://localhost:8000/friendbot"⟩,
  ⟨"mainnet", "https://mainnet.sorobanrpc.com", "Public Global Stellar Network ; September 2015",
    none⟩]

/-- The network of a name, with another friendbot if one is given. -/
def ofName (name : String) (friendbotUrl : Option String) : Except Failure Network :=
  match known.find? (·.name = name) with
  | none => .error (.unknownNetwork name (known.map Network.name))
  | some network => .ok { network with friendbotUrl := friendbotUrl <|> network.friendbotUrl }

end Network

/-! ## Answers -/

/-- What becomes of a request: an answer with its text, a failure to reach the service, or a failure of
another sort. -/
inductive Reply where
  | answer (status : Nat) (text : Except Raised (List Char))
  | unreachable (cause : String)
  | failure (failure : Failure)

/-- What is raised instead of an answer. -/
def Raised.reply (raised : Raised) : Reply :=
  if raised.isUnreached then .unreachable raised.text else .failure raised.failure

/-- What becomes of a request that a client sends. -/
def Client.reply (decoders : Decoders) (client : Client) : Reply :=
  match client.outcome with
  | .ok response => .answer response.status (response.text decoders client.fallback)
  | .error raised => raised.reply

def existsMark : List Char := "op_already_exists".toList

/-- Whether a text holds another as a part. -/
def holds (part : List Char) : List Char → Bool
  | [] => part = []
  | c :: cs => part.isPrefixOf (c :: cs) || holds part cs

def isSuccess (status : Nat) : Bool :=
  200 ≤ status && status ≤ 299

/-! ## Funding -/

/-- What a funder does: whether it succeeds, what it logs and what it requests. -/
structure FundingReport where
  result : Except Failure Unit
  log : List LogRecord
  requests : List String

/-- What funds addresses.  It sees the address only, and changes neither files nor keychains. -/
abbrev Funder := String → FundingReport

/-- What asking a friendbot comes to: an answer or a failure, and the requests that have been sent. -/
structure Exchange where
  outcome : Except Failure (Nat × Except Raised (List Char))
  requests : List String

/-- What becomes of a request that has been sent to a friendbot. -/
def Reply.outcome (friendbotUrl : String) (url : Url) :
    Reply → Except Failure (Nat × Except Raised (List Char))
  | .unreachable cause => .error (.unreachable friendbotUrl cause)
  | .failure other => .error other
  | .answer status text =>
    if url.isAbsolute then .ok (status, text) else .error (.hostlessRequest url.text)

/-- Asks the friendbot at a URL for an address, where `reply` is what becomes of a request. -/
def Reply.exchange (reply : Reply) (friendbotUrl address : String) : Exchange :=
  match Url.request friendbotUrl.toList "addr" address with
  | .error fault => ⟨.error (.unreachable friendbotUrl fault.message), []⟩
  | .ok url => ⟨reply.outcome friendbotUrl url, ["GET " ++ url.text]⟩

/-- What is raised while a friendbot is asked, as a failure. -/
def Raised.fundingFailure (raised : Raised) (friendbotUrl : String) : Failure :=
  if raised.isUnreached then .unreachable friendbotUrl raised.text else raised.failure

/-- Asks by a client that is closed then; what closing it raises takes the stead of an answer and of a
failure. -/
def Client.ownExchange (decoders : Decoders) (client : Client) (friendbotUrl address : String) :
    Exchange :=
  let exchange := (client.reply decoders).exchange friendbotUrl address
  match client.closing with
  | none => exchange
  | some raised => { exchange with outcome := .error (raised.fundingFailure friendbotUrl) }

/-- The outcome of an answer to the request to fund an address, with its log record. -/
def answered (network : Network) (address : String) (status : Nat)
    (text : Except Raised (List Char)) : Except Failure Unit × List LogRecord :=
  if isSuccess status then
    (.ok (), [⟨.info, "Account " ++ address ++ " funded on " ++ network.name⟩])
  else
    match text with
    | .error raised => (.error raised.failure, [])
    | .ok text =>
      if holds existsMark text then
        (.ok (), [⟨.info, "Account " ++ address ++ " already exists on " ++ network.name⟩])
      else (.error (.notFunded address status (String.ofList text)), [])

/-- Funds an address by an exchange with the friendbot of a network. -/
def Network.fundBy (network : Network) (ask : String → String → Exchange) : Funder := fun address =>
  match network.friendbotUrl with
  | none => ⟨.error (.noFriendbot network.name address), [], []⟩
  | some friendbotUrl =>
    let start : LogRecord := ⟨.debug, "Funding " ++ address ++ " with " ++ friendbotUrl ++ "... "⟩
    let exchange := ask friendbotUrl address
    match exchange.outcome with
    | .error failure => ⟨.error failure, [start], exchange.requests⟩
    | .ok (status, text) =>
      let (result, log) := answered network address status text
      ⟨result, start :: log, exchange.requests⟩

/-- Asks the friendbot of a network to fund an address, where `reply` is what becomes of a request. -/
def Network.fund (network : Network) (reply : Reply) : Funder :=
  network.fundBy reply.exchange

/-- The seconds that an own client waits for the friendbot. -/
def fundingTimeout : Nat := 30

/-- Funds with the client given, or else with an own one, which `connect` opens with a time limit and which
falls back on UTF-8. -/
def Network.fundWith (network : Network) (decoders : Decoders) (connect : Nat → Client) :
    (given : Option Client) → Funder
  | some client => network.fund (client.reply decoders)
  | none => network.fundBy ((connect fundingTimeout).inUtf8.ownExchange decoders)

/-- Lets a funder fund an address. -/
def Action.fund (funder : Funder) (address : String) : Action Unit := do
  let report := funder address
  modify fun world =>
    { world with log := world.log ++ report.log, requests := world.requests ++ report.requests }
  Action.ofExcept report.result

end NamedKeys
