import Mathlib.Logic.Relation
import NamedKeys.Network
import NamedKeys.Proofs.Text.Lossy
import NamedKeys.Proofs.Url.Request

/-!
# Funding succeeds exactly for accounts that are there

A network is asked for an address by the one request that its friendbot and the address make, or by none
(`Network.sentUrl?`).  With a client that answers or raises anything, funding returns exactly if an answer
arrives that is a success or whose text holds the mark of an account that is there; it fails as a network
failure exactly if no request can be made, the client says that the service was not reached, or another
answer arrives; and anything else that is raised passes through as it is:

    (network.fundWith decoders connect (some client) address).IsExact network decoders client address

An own client, which falls back on UTF-8, does the same if closing it raises nothing.  The text of an answer
that is read in UTF-8 holds the mark exactly if its octets do.  What says that the service was not reached are
the classes at and below three of the classes of a client's failures.  All this is `fundWith_exact`.
-/

namespace NamedKeys

/-! ## Classes -/

namespace Raised

def IsBelow (name other : String) : Prop :=
  (name, other) ∈ tree

/-- Every class that is found above one is above it in the tree. -/
theorem reach_of_mem_classesAbove {name other : String} (h : other ∈ classesAbove name) :
    Relation.ReflTransGen IsBelow name other := by
  have climbs : ∀ entries : List (String × String), (∀ entry ∈ entries, entry ∈ tree) →
      ∀ above : List String, (∀ other ∈ above, Relation.ReflTransGen IsBelow name other) →
        ∀ other ∈ entries.foldl (climb name) above, Relation.ReflTransGen IsBelow name other := by
    intro entries
    induction entries with
    | nil => exact fun _ above habove => habove
    | cons entry entries ih =>
      intro htree above habove
      refine ih (fun e he => htree e (List.mem_cons_of_mem _ he)) _ fun other hother => ?_
      rw [climb] at hother
      split at hother
      · next hlast =>
        rcases List.mem_append.1 hother with hother | hother
        · exact habove other hother
        · rw [List.mem_singleton.1 hother]
          have hlower : Relation.ReflTransGen IsBelow name entry.1 := by
            rw [← hlast, List.getLastD_eq_getLast?]
            cases hget : above.getLast? with
            | none => exact .refl
            | some last => exact habove last (List.mem_of_getLast? hget)
          exact hlower.tail (htree entry List.mem_cons_self)
      · exact habove other hother
  exact climbs tree (fun _ he => he) [] (fun _ hnone => absurd hnone List.not_mem_nil) other h

/-- Every class that is next above those found is found too. -/
theorem mem_classesAbove_of_isBelow {name lower next : String}
    (h : lower ∈ name :: classesAbove name) (hbelow : IsBelow lower next) :
    next ∈ classesAbove name := by
  have hinside : ∀ entry ∈ tree, ∀ below ∈ tree, below.1 ∈ entry.1 :: classesAbove entry.1 →
      below.2 ∈ classesAbove entry.1 := by decide +kernel
  by_cases hname : ∃ above, (name, above) ∈ tree
  · obtain ⟨above, hmem⟩ := hname
    exact hinside _ hmem _ hbelow h
  · -- nothing is above a class that the tree does not put below another
    have hnone : ∀ entries : List (String × String), (∀ entry ∈ entries, entry ∈ tree) →
        entries.foldl (climb name) [] = [] := by
      intro entries
      induction entries with
      | nil => exact fun _ => rfl
      | cons entry entries ih =>
        intro htree
        have hne : name ≠ entry.1 := fun heq =>
          hname ⟨entry.2, heq ▸ htree entry List.mem_cons_self⟩
        rw [List.foldl_cons, climb, List.getLastD_nil, if_neg hne]
        exact ih fun e he => htree e (List.mem_cons_of_mem _ he)
    rw [classesAbove, hnone tree fun _ he => he, List.mem_singleton] at h
    exact absurd ⟨next, h ▸ hbelow⟩ hname

/-- What says that the service was not reached are the classes at and below the three. -/
theorem isUnreached_ofName_iff (name text : String) :
    (ofName name text).isUnreached = true ↔
      ∃ other ∈ unreached, Relation.ReflTransGen IsBelow name other := by
  have hmem : ∀ other, other ∈ name :: classesAbove name ↔
      Relation.ReflTransGen IsBelow name other := by
    intro other
    constructor
    · intro h
      rcases List.mem_cons.1 h with rfl | h
      · exact .refl
      · exact reach_of_mem_classesAbove h
    · intro h
      induction h with
      | refl => exact List.mem_cons_self
      | tail _ hbelow ih => exact List.mem_cons_of_mem _ (mem_classesAbove_of_isBelow ih hbelow)
  rw [isUnreached, List.any_eq_true]
  refine exists_congr fun other => and_congr_right fun _ => ?_
  rw [isA, List.contains_iff_mem, ofName]
  dsimp only
  exact hmem other

end Raised

/-! ## Answers -/

section

variable {decoders : Decoders} {fallback : Decoder} {response : Response}

/-- An answer tells that an account is there: it is a success, or its text holds the mark. -/
def TellsAccount (decoders : Decoders) (fallback : Decoder) (response : Response) : Prop :=
  (200 ≤ response.status ∧ response.status ≤ 299) ∨
    ∃ text, response.text decoders fallback = .ok text ∧ existsMark <:+: text

/-- An answer is read in UTF-8, with a mark in the place of what is none. -/
def Response.IsUtf8 (decoders : Decoders) (fallback : Decoder) (response : Response) : Prop :=
  response.decoder decoders fallback = .utf8

theorem holds_iff {part cs : List Char} : holds part cs = true ↔ part <:+: cs := by
  induction cs with
  | nil => rw [holds, decide_eq_true_iff, List.infix_nil]
  | cons c cs ih =>
    rw [holds, Bool.or_eq_true, ih, List.isPrefixOf_iff_prefix, List.infix_cons_iff]

theorem isSuccess_iff {status : Nat} : isSuccess status = true ↔ 200 ≤ status ∧ status ≤ 299 := by
  rw [isSuccess, Bool.and_eq_true, decide_eq_true_iff, decide_eq_true_iff]

/-- The mark is found in the decoded text exactly if it is there in octets. -/
theorem existsMark_infix_decodeLossy_iff (body : List UInt8) :
    existsMark <:+: Text.Utf8.decodeLossy body ↔ Text.Utf8.encode existsMark <:+: body := by
  have hall : existsMark.all (·.toNat < 128) = true := by decide +kernel
  have hascii : Text.IsAscii existsMark := fun c hc =>
    of_decide_eq_true (List.all_eq_true.1 hall c hc)
  exact Text.Utf8.infix_decodeLossy_iff (List.ne_nil_of_length_pos (by decide +kernel)) hascii

theorem Response.text_of_isUtf8 (h : response.IsUtf8 decoders fallback) :
    response.text decoders fallback = .ok (Text.Utf8.decodeLossy response.body) := by
  rw [Response.text, h]
  split
  · next hempty =>
    rw [hempty, Text.Utf8.decodeLossy, Text.Utf8.pieces]
    rfl
  · rfl

/-- In UTF-8, an answer tells that an account is there by its octets. -/
theorem tellsAccount_iff (h : response.IsUtf8 decoders fallback) :
    TellsAccount decoders fallback response ↔
    (200 ≤ response.status ∧ response.status ≤ 299) ∨
      Text.Utf8.encode existsMark <:+: response.body := by
  rw [TellsAccount, Response.text_of_isUtf8 h, ← existsMark_infix_decodeLossy_iff]
  refine or_congr_right ⟨?_, fun hmark => ⟨_, rfl, hmark⟩⟩
  rintro ⟨text, ⟨⟩, hmark⟩
  exact hmark

/-- How an answer is understood: it tells that the account is there, or it is a failure with the text, or
the text cannot be read. -/
theorem answered_cases {network : Network} {address : String} {result : Except Failure Unit}
    (h : (answered network address response.status (response.text decoders fallback)).1 = result) :
    TellsAccount decoders fallback response ∧ result = .ok () ∨
      ¬TellsAccount decoders fallback response ∧
        ((∃ text, response.text decoders fallback = .ok text ∧
            result = .error (.notFunded address response.status (String.ofList text))) ∨
          ∃ raised, response.text decoders fallback = .error raised ∧
            result = .error raised.failure) := by
  rw [TellsAccount, ← isSuccess_iff]
  by_cases hstatus : isSuccess response.status
  · unfold answered at h
    rw [if_pos hstatus] at h
    exact .inl ⟨.inl hstatus, h.symm⟩
  · unfold answered at h
    rw [if_neg hstatus] at h
    cases htext : response.text decoders fallback with
    | error raised =>
      rw [htext] at h
      refine .inr ⟨not_or_intro hstatus ?_, .inr ⟨raised, rfl, h.symm⟩⟩
      rintro ⟨_, ⟨⟩, -⟩
    | ok text =>
      rw [htext] at h
      dsimp only at h
      by_cases hmark : holds existsMark text
      · rw [if_pos hmark] at h
        exact .inl ⟨.inr ⟨text, rfl, holds_iff.1 hmark⟩, h.symm⟩
      · rw [if_neg hmark] at h
        refine .inr ⟨not_or_intro hstatus ?_, .inl ⟨text, rfl, h.symm⟩⟩
        rintro ⟨_, ⟨⟩, hfound⟩
        exact hmark (holds_iff.2 hfound)

end

/-! ## Requests -/

def Network.sentUrl? (network : Network) (address : String) : Option Url :=
  network.friendbotUrl.bind fun friendbotUrl =>
    (Url.request friendbotUrl.toList "addr" address).toOption

/-- What becomes of the request for an address, of which a client tells the outcome, as a report. -/
structure FundingReport.IsExact (report : FundingReport) (network : Network) (decoders : Decoders)
    (client : Client) (address : String) : Prop where
  /-- At most one request is sent, none without a friendbot or if its URL is refused. -/
  requests : report.requests = ((network.sentUrl? address).map ("GET " ++ ·.text)).toList
  funded : report.result = .ok () ↔
    ∃ url response, network.sentUrl? address = some url ∧ url.isAbsolute = true ∧
      client.outcome = .ok response ∧ TellsAccount decoders client.fallback response
  refused : (∃ failure, report.result = .error failure ∧ failure.family = .network) ↔
    network.sentUrl? address = none ∨
      (∃ raised, client.outcome = .error raised ∧ raised.isUnreached = true) ∨
      ∃ url response text, network.sentUrl? address = some url ∧ url.isAbsolute = true ∧
        client.outcome = .ok response ∧ response.text decoders client.fallback = .ok text ∧
        ¬TellsAccount decoders client.fallback response
  /-- What passes through was raised by the client, of another class, or is its refusal of a URL
  without a host, or was raised by reading the text of an answer. -/
  escaped : ∀ failure, (report.result = .error failure ∧ failure.family ≠ .network) ↔
    ∃ url, network.sentUrl? address = some url ∧
      ((∃ raised, client.outcome = .error raised ∧ raised.isUnreached = false ∧
          failure = raised.failure) ∨
        ∃ response, client.outcome = .ok response ∧
          (url.isAbsolute = false ∧ failure = .hostlessRequest url.text ∨
            url.isAbsolute = true ∧ ¬TellsAccount decoders client.fallback response ∧
              ∃ raised, response.text decoders client.fallback = .error raised ∧
                failure = raised.failure))

namespace Raised

theorem family_failure (raised : Raised) : raised.failure.family ≠ .network := by
  rw [failure]
  split <;> exact nofun

theorem fundingFailure_of_reached {raised : Raised} (h : raised.isUnreached = false)
    (friendbotUrl : String) : raised.fundingFailure friendbotUrl = raised.failure := by
  rw [fundingFailure, h, if_neg Bool.false_ne_true]

theorem family_fundingFailure_iff {raised : Raised} {friendbotUrl : String} :
    (raised.fundingFailure friendbotUrl).family = .network ↔ raised.isUnreached = true := by
  cases hunreached : raised.isUnreached with
  | false =>
    rw [fundingFailure_of_reached hunreached]
    exact iff_of_false raised.family_failure Bool.false_ne_true
  | true =>
    rw [fundingFailure, hunreached]
    exact iff_of_true rfl rfl

theorem outcome_reply (raised : Raised) (friendbotUrl : String) (url : Url) :
    raised.reply.outcome friendbotUrl url = .error (raised.fundingFailure friendbotUrl) := by
  rw [reply, fundingFailure]
  cases raised.isUnreached <;> rfl

end Raised

theorem Reply.requests_exchange (reply : Reply) (friendbotUrl address : String) :
    (reply.exchange friendbotUrl address).requests =
      ((Url.request friendbotUrl.toList "addr" address).toOption.map ("GET " ++ ·.text)).toList := by
  rw [exchange]
  cases Url.request friendbotUrl.toList "addr" address <;> rfl

namespace Network

variable {network : Network} {address : String} {url : Url}

theorem exists_of_sentUrl? (h : network.sentUrl? address = some url) :
    ∃ friendbotUrl, network.friendbotUrl = some friendbotUrl ∧
      Url.request friendbotUrl.toList "addr" address = .ok url := by
  obtain ⟨friendbotUrl, hfriendbot, hurl⟩ := Option.bind_eq_some_iff.1 h
  cases hsent : Url.request friendbotUrl.toList "addr" address with
  | error fault =>
    rw [hsent] at hurl
    cases hurl
  | ok sent =>
    rw [hsent] at hurl
    exact ⟨friendbotUrl, hfriendbot, by rw [hsent, Option.some.inj hurl]⟩

/-- An exchange that asks at most once makes a network ask at most once. -/
theorem requests_fundBy {ask : String → String → Exchange}
    (hask : ∀ friendbotUrl address, (ask friendbotUrl address).requests =
      ((Url.request friendbotUrl.toList "addr" address).toOption.map ("GET " ++ ·.text)).toList)
    (network : Network) (address : String) :
    (network.fundBy ask address).requests =
      ((network.sentUrl? address).map ("GET " ++ ·.text)).toList := by
  rw [sentUrl?, fundBy]
  cases network.friendbotUrl with
  | none => rfl
  | some friendbotUrl =>
    rw [Option.bind_some, ← hask]
    dsimp only
    split <;> rfl

theorem requests_fund (network : Network) (reply : Reply) (address : String) :
    (network.fund reply address).requests =
      ((network.sentUrl? address).map ("GET " ++ ·.text)).toList :=
  requests_fundBy reply.requests_exchange network address

/-- A client given and an own one send the same request. -/
theorem requests_fundWith (network : Network) (decoders : Decoders) (connect : Nat → Client)
    (given : Option Client) (address : String) :
    (network.fundWith decoders connect given address).requests =
      ((network.sentUrl? address).map ("GET " ++ ·.text)).toList := by
  cases given with
  | some client => exact requests_fund network _ address
  | none =>
    refine requests_fundBy (fun friendbotUrl address => ?_) network address
    rw [Client.ownExchange, ← ((connect fundingTimeout).inUtf8.reply decoders).requests_exchange]
    split <;> rfl

/-! ## Results -/

theorem result_of_sentUrl?_none (h : network.sentUrl? address = none) (reply : Reply) :
    ∃ failure, (network.fund reply address).result = .error failure ∧ failure.family = .network := by
  rw [fund, fundBy]
  split
  · exact ⟨_, rfl, rfl⟩
  · next friendbotUrl hfriendbot =>
    rw [sentUrl?, hfriendbot, Option.bind_some] at h
    rw [Reply.exchange]
    cases hurl : Url.request friendbotUrl.toList "addr" address with
    | error fault => exact ⟨_, rfl, rfl⟩
    | ok url =>
      rw [hurl] at h
      cases h

theorem result_of_sentUrl?_some (h : network.sentUrl? address = some url) (reply : Reply) :
    ∃ friendbotUrl, (network.fund reply address).result =
      match reply.outcome friendbotUrl url with
      | .error failure => .error failure
      | .ok (status, text) => (answered network address status text).1 := by
  obtain ⟨friendbotUrl, hfriendbot, hrequest⟩ := exists_of_sentUrl? h
  refine ⟨friendbotUrl, ?_⟩
  rw [fund, fundBy, hfriendbot]
  dsimp only
  rw [Reply.exchange, hrequest]
  dsimp only
  cases reply.outcome friendbotUrl url <;> rfl

/-- How the request for an address ends, by what its client does. -/
inductive Ends (network : Network) (decoders : Decoders) (client : Client) (address : String) :
    Except Failure Unit → Prop
  | unsent {failure : Failure} (hsent : network.sentUrl? address = none)
    (hfamily : failure.family = .network) : Ends network decoders client address (.error failure)
  | raised {url : Url} {raised : Raised} {friendbotUrl : String}
    (hsent : network.sentUrl? address = some url) (houtcome : client.outcome = .error raised) :
    Ends network decoders client address (.error (raised.fundingFailure friendbotUrl))
  | hostless {url : Url} {response : Response} (hsent : network.sentUrl? address = some url)
    (houtcome : client.outcome = .ok response) (hurl : url.isAbsolute = false) :
    Ends network decoders client address (.error (.hostlessRequest url.text))
  | told {url : Url} {response : Response} (hsent : network.sentUrl? address = some url)
    (houtcome : client.outcome = .ok response) (hurl : url.isAbsolute = true)
    (htells : TellsAccount decoders client.fallback response) : Ends network decoders client address (.ok ())
  | untold {url : Url} {response : Response} {text : List Char}
    (hsent : network.sentUrl? address = some url) (houtcome : client.outcome = .ok response)
    (hurl : url.isAbsolute = true) (htells : ¬TellsAccount decoders client.fallback response)
    (htext : response.text decoders client.fallback = .ok text) : Ends network decoders client address
      (.error (.notFunded address response.status (String.ofList text)))
  | unread {url : Url} {response : Response} {raised : Raised}
    (hsent : network.sentUrl? address = some url) (houtcome : client.outcome = .ok response)
    (hurl : url.isAbsolute = true) (htells : ¬TellsAccount decoders client.fallback response)
    (htext : response.text decoders client.fallback = .error raised) :
    Ends network decoders client address (.error raised.failure)

/-- A failure of another family passes through as it is. -/
theorem passes_iff {found failure : Failure} (h : found.family ≠ .network) :
    ((.error found : Except Failure Unit) = .error failure ∧ failure.family ≠ .network) ↔
      failure = found := by
  constructor
  · rintro ⟨⟨⟩, -⟩
    rfl
  · rintro rfl
    exact ⟨rfl, h⟩

theorem not_passes {found failure : Failure} (h : found.family = .network) :
    ((.error found : Except Failure Unit) = .error failure ∧ failure.family ≠ .network) ↔ False :=
  iff_false_intro fun ⟨heq, hother⟩ => hother (Except.error.inj heq ▸ h)

theorem ends_fund (network : Network) (decoders : Decoders) (client : Client) (address : String) :
    Ends network decoders client address (network.fund (client.reply decoders) address).result := by
  cases hsent : network.sentUrl? address with
  | none =>
    obtain ⟨failure, hresult, hfamily⟩ := result_of_sentUrl?_none hsent (client.reply decoders)
    rw [hresult]
    exact .unsent hsent hfamily
  | some url =>
    obtain ⟨friendbotUrl, hresult⟩ := result_of_sentUrl?_some hsent (client.reply decoders)
    rw [hresult, Client.reply]
    cases houtcome : client.outcome with
    | error raised =>
      dsimp only
      rw [raised.outcome_reply]
      exact .raised hsent houtcome
    | ok response =>
      rw [Reply.outcome]
      cases hurl : url.isAbsolute with
      | false => exact .hostless hsent houtcome hurl
      | true =>
        rw [if_pos rfl]
        dsimp only
        obtain ⟨htells, hanswer⟩ | ⟨htells, ⟨text, htext, hanswer⟩ | ⟨raised, htext, hanswer⟩⟩ :=
          answered_cases (rfl : (answered network address _ (response.text decoders client.fallback)).1 = _)
        · rw [hanswer]
          exact .told hsent houtcome hurl htells
        · rw [hanswer]
          exact .untold hsent houtcome hurl htells htext
        · rw [hanswer]
          exact .unread hsent houtcome hurl htells htext

section

variable {decoders : Decoders} {client : Client} {result : Except Failure Unit}
  (h : Ends network decoders client address result)

include h

theorem Ends.funded_iff : result = .ok () ↔
    ∃ url response, network.sentUrl? address = some url ∧ url.isAbsolute = true ∧
      client.outcome = .ok response ∧ TellsAccount decoders client.fallback response := by
  cases h with
  | unsent hsent _ => simp [hsent]
  | raised hsent houtcome => simp [houtcome]
  | hostless hsent houtcome hurl => simp [hsent, hurl]
  | told hsent houtcome hurl htells => simp [hsent, houtcome, hurl, htells]
  | untold hsent houtcome hurl htells htext => simp [houtcome, htells]
  | unread hsent houtcome hurl htells htext => simp [houtcome, htells]

theorem Ends.refused_iff : (∃ failure, result = .error failure ∧ failure.family = .network) ↔
    network.sentUrl? address = none ∨
      (∃ raised, client.outcome = .error raised ∧ raised.isUnreached = true) ∨
      ∃ url response text, network.sentUrl? address = some url ∧ url.isAbsolute = true ∧
        client.outcome = .ok response ∧ response.text decoders client.fallback = .ok text ∧
        ¬TellsAccount decoders client.fallback response := by
  cases h with
  | unsent hsent hfamily => simp [hsent, hfamily]
  | raised hsent houtcome => simp [hsent, houtcome, Raised.family_fundingFailure_iff]
  | hostless hsent houtcome hurl => simp [hsent, houtcome, hurl, Failure.family]
  | told hsent houtcome hurl htells => simp [hsent, houtcome, htells]
  | untold hsent houtcome hurl htells htext =>
    simp [hsent, houtcome, hurl, htells, htext, Failure.family]
  | @unread _ _ raised hsent houtcome hurl htells htext =>
    simp [hsent, houtcome, htext, raised.family_failure]

theorem Ends.escaped_iff (failure : Failure) :
    (result = .error failure ∧ failure.family ≠ .network) ↔
      ∃ url, network.sentUrl? address = some url ∧
        ((∃ raised, client.outcome = .error raised ∧ raised.isUnreached = false ∧
            failure = raised.failure) ∨
          ∃ response, client.outcome = .ok response ∧
            (url.isAbsolute = false ∧ failure = .hostlessRequest url.text ∨
              url.isAbsolute = true ∧ ¬TellsAccount decoders client.fallback response ∧
                ∃ raised, response.text decoders client.fallback = .error raised ∧
                  failure = raised.failure)) := by
  cases h with
  | unsent hsent hfamily =>
    rw [not_passes hfamily]
    simp [hsent]
  | @raised _ raised _ hsent houtcome =>
    cases hunreached : raised.isUnreached with
    | false =>
      rw [Raised.fundingFailure_of_reached hunreached, passes_iff raised.family_failure]
      simp [hsent, houtcome, hunreached]
    | true =>
      rw [not_passes (Raised.family_fundingFailure_iff.2 hunreached)]
      simp [houtcome, hunreached]
  | @hostless url _ hsent houtcome hurl =>
    have hother : (Failure.hostlessRequest url.text).family ≠ .network := nofun
    rw [passes_iff hother]
    simp [hsent, houtcome, hurl]
  | told hsent houtcome hurl htells => simp [hsent, houtcome, hurl, htells]
  | untold hsent houtcome hurl htells htext =>
    rw [not_passes rfl]
    simp [hsent, houtcome, hurl, htext]
  | @unread _ _ raised hsent houtcome hurl htells htext =>
    rw [passes_iff raised.family_failure]
    simp [hsent, houtcome, hurl, htells, htext]

end

/-- What a network does with a client that answers or raises anything. -/
theorem fund_exact (network : Network) (decoders : Decoders) (client : Client) (address : String) :
    (network.fund (client.reply decoders) address).IsExact network decoders client address :=
  have hends := ends_fund network decoders client address
  { requests := requests_fund network _ address
    funded := hends.funded_iff
    refused := hends.refused_iff
    escaped := hends.escaped_iff }

section

variable {decoders : Decoders} {connect : Nat → Client}

/-- An own client that is closed in silence is as good as one that is given. -/
theorem fundWith_of_closing_none (h : (connect fundingTimeout).closing = none) (network : Network) :
    network.fundWith decoders connect none =
      network.fundWith decoders connect (some (connect fundingTimeout).inUtf8) := by
  have hclosing : (connect fundingTimeout).inUtf8.closing = none := h
  have hask : (connect fundingTimeout).inUtf8.ownExchange decoders =
      ((connect fundingTimeout).inUtf8.reply decoders).exchange := by
    funext friendbotUrl address
    rw [Client.ownExchange, hclosing]
  rw [fundWith, fundWith, fund, hask]

/-- What closing an own client raises is what funding ends with, once a friendbot has been asked. -/
theorem fundWith_of_closing_some {raised : Raised}
    (h : (connect fundingTimeout).closing = some raised) (network : Network) (address : String) :
    (network.fundWith decoders connect none address).result = .error (match network.friendbotUrl with
      | none => .noFriendbot network.name address
      | some friendbotUrl => raised.fundingFailure friendbotUrl) := by
  have hclosing : (connect fundingTimeout).inUtf8.closing = some raised := h
  rw [fundWith, fundBy]
  cases network.friendbotUrl with
  | none => rfl
  | some friendbotUrl =>
    dsimp only
    rw [Client.ownExchange, hclosing]

end

/-- Funding an address does exactly what the answer tells.  An own client sends the same request as one that
is given, and does the same as one that falls back on UTF-8 unless closing it raises something.  An answer
that is read in UTF-8 tells that the account is there by its octets, and a class says that the service was not
reached if it is one of the three or below. -/
theorem fundWith_exact (network : Network) (decoders : Decoders) (connect : Nat → Client)
    (address : String) :
    (∀ client, (network.fundWith decoders connect (some client) address).IsExact network decoders
      client address) ∧
    (∀ given, (network.fundWith decoders connect given address).requests =
      ((network.sentUrl? address).map ("GET " ++ ·.text)).toList) ∧
    ((connect fundingTimeout).closing = none →
      network.fundWith decoders connect none address =
        network.fundWith decoders connect (some (connect fundingTimeout).inUtf8) address) ∧
    (∀ raised, (connect fundingTimeout).closing = some raised →
      (network.fundWith decoders connect none address).result =
        .error (match network.friendbotUrl with
          | none => .noFriendbot network.name address
          | some friendbotUrl => raised.fundingFailure friendbotUrl)) ∧
    (∀ fallback, ∀ response : Response, response.IsUtf8 decoders fallback →
      (TellsAccount decoders fallback response ↔
        (200 ≤ response.status ∧ response.status ≤ 299) ∨
          Text.Utf8.encode existsMark <:+: response.body)) ∧
    ∀ name text, (Raised.ofName name text).isUnreached = true ↔
      ∃ other ∈ Raised.unreached, Relation.ReflTransGen Raised.IsBelow name other :=
  ⟨fun client => fund_exact network decoders client address,
    fun given => requests_fundWith network decoders connect given address,
    fun h => congrFun (fundWith_of_closing_none h network) address,
    fun _ h => fundWith_of_closing_some h network address,
    fun _ _ h => tellsAccount_iff h, Raised.isUnreached_ofName_iff⟩

/-- The mark is seen in an answer that refuses, between octets that are no text, unless closing the client
says that the service was not reached. -/
theorem fundWith_exact_marked :
    let network : Network := ⟨"local", "", "", some "http://h/x"⟩
    let decoders : Decoders := fun name =>
      if name = "utf-8" then some fun octets => .ok (Text.Utf8.decodeLossy octets) else none
    let response : Response :=
      ⟨400, some "utf-8", [0xE2, 0x82] ++ Text.Utf8.encode existsMark ++ [0xFF]⟩
    let result (closing : Option Raised) :=
      (network.fundWith decoders (fun _ => ⟨.ok response, .utf8, closing⟩) none "G").result
    result none = .ok () ∧
      result (some (.ofName "CloseError" "gone")) = .error (.unreachable "http://h/x" "gone") := by
  intro network decoders response result
  have hutf8 : response.IsUtf8 decoders .utf8 := rfl
  constructor
  · obtain ⟨hexact, -, hown, -, hoctets, -⟩ :=
      fundWith_exact network decoders (fun _ => ⟨.ok response, .utf8, none⟩) "G"
    have htells := (hoctets .utf8 response hutf8).2 (.inr ⟨[0xE2, 0x82], [0xFF], rfl⟩)
    rw [show result none = _ from congrArg FundingReport.result (hown rfl)]
    exact (hexact _).funded.2
      ⟨⟨"http".toList, [], ['h'], none, ['/', 'x'], some "addr=G".toList, none⟩, response, by rfl,
        by rfl, rfl, htells⟩
  · obtain ⟨-, -, -, hclosing, -, htree⟩ := fundWith_exact network decoders
      (fun _ => ⟨.ok response, .utf8, some (.ofName "CloseError" "gone")⟩) "G"
    have hunreached : (Raised.ofName "CloseError" "gone").isUnreached = true := by
      refine (htree _ _).2 ⟨"HTTPError", List.mem_cons_self, ?_⟩
      have hbelow : ∀ entry ∈ Raised.tree, Raised.IsBelow entry.1 entry.2 := fun _ h => h
      exact .head (hbelow ("CloseError", "NetworkError") (by decide)) <|
        .head (hbelow ("NetworkError", "TransportError") (by decide)) <|
        .head (hbelow ("TransportError", "RequestError") (by decide)) <|
        .single (hbelow ("RequestError", "HTTPError") (by decide))
    rw [show result (some _) = _ from hclosing _ rfl]
    exact congrArg Except.error (if_pos hunreached)

/-- Octets read as UTF-16 with the lower octet of each pair first; a surrogate is read as a mark. -/
def readUtf16 : List UInt8 → List Char
  | low :: high :: octets =>
    let n := low.toNat + 256 * high.toNat
    (if n.isValidChar then Char.ofNat n else '\uFFFD') :: readUtf16 octets
  | [_] => ['\uFFFD']
  | [] => []

/-- The decoders of a client that knows no other character set. -/
def utf16Only : Decoders := fun name =>
  if name = "utf-16-le" then some fun octets => .ok (readUtf16 octets) else none

/-- The octets of the mark in an answer of another character set do not count; a success does not count if
the URL of the request names no host; and an own client is not as good as a given one if it is closed in
vain. -/
theorem not_funded_by_octets :
    let result (friendbotUrl : String) (client : Client) (given : Option Client) : Except Failure Unit :=
      ((⟨"local", "", "", some friendbotUrl⟩ : Network).fundWith utf16Only (fun _ => client) given
        "G").result
    let marked : Response := ⟨400, some "utf-16-le", Text.Utf8.encode existsMark⟩
    let success : Response := ⟨200, none, []⟩
    let unclosed : Client := ⟨.ok success, .utf8, some (.ofName "RuntimeError" "closed")⟩
    (∃ failure, result "http://h/x" ⟨.ok marked, .utf8, none⟩ none = .error failure ∧
        failure.family = .network) ∧
      result "friendbot" ⟨.ok success, .utf8, none⟩ none = .error (.hostlessRequest "/friendbot?addr=G") ∧
      result "http://h/x" unclosed (some unclosed) = .ok () ∧
      result "http://h/x" unclosed none = .error (.foreign "RuntimeError" "closed") := by
  refine ⟨?_, by rfl, by rfl, by rfl⟩
  have huntold : ¬TellsAccount utf16Only .utf8 ⟨400, some "utf-16-le", Text.Utf8.encode existsMark⟩ := by
    rintro (⟨-, hstatus⟩ | ⟨text, ⟨⟩, hmark⟩)
    · exact absurd hstatus (by decide)
    · have hnone : holds existsMark (readUtf16 (Text.Utf8.encode existsMark)) = false := by decide
      rw [holds_iff.2 hmark] at hnone
      cases hnone
  exact (fund_exact _ utf16Only ⟨.ok ⟨400, some "utf-16-le", _⟩, .utf8, none⟩ "G").refused.2 (.inr (.inr
    ⟨⟨"http".toList, [], ['h'], none, ['/', 'x'], some "addr=G".toList, none⟩, _, _, by rfl, by rfl,
      rfl, rfl, huntold⟩))

/-! ## What is asked -/

/-- A network asks the place of its friendbot, with the address for the one parameter, in the place of those
that the URL of the friendbot may have; it asks nothing if the URL with this parameter is too long or if its
host is read otherwise the second time. -/
theorem request_replaces_query {network : Network} {friendbotUrl : String} {url : Url}
    (hfriendbot : network.friendbotUrl = some friendbotUrl)
    (hurl : Url.ofText friendbotUrl.toList = .ok url) (habsolute : url.isAbsolute = true)
    (decoders : Decoders) (connect : Nat → Client) (given : Option Client) (address : String) :
    ((url.withParameter "addr" address).Fits ∧ Url.Stands url.host →
      ∃ sent : Url, (network.fundWith decoders connect given address).requests = ["GET " ++ sent.text] ∧
        sent.SamePlace url ∧
        sent.parameters = [(Text.Utf8.encode "addr".toList, Text.Utf8.encode address.toList)]) ∧
    (¬((url.withParameter "addr" address).Fits ∧ Url.Stands url.host) →
      (network.fundWith decoders connect given address).requests = []) := by
  have hrequests : (network.fundWith decoders connect given address).requests =
      ((Url.request friendbotUrl.toList "addr" address).toOption.map ("GET " ++ ·.text)).toList := by
    rw [requests_fundWith, sentUrl?, hfriendbot, Option.bind_some]
  have hname : ∀ c ∈ "addr".toList, Url.isUnreserved c = true := by
    simp [Url.isUnreserved]
  constructor
  · rintro ⟨hfits, hstands⟩
    have hsent := (Url.request_eq_ok_iff hurl habsolute).2 ⟨hfits, hstands, rfl⟩
    refine ⟨_, ?_, Url.samePlace_again url _, Url.parameters_request hname hsent⟩
    rw [hrequests, hsent]
    rfl
  · intro hnot
    rw [hrequests]
    cases hsent : Url.request friendbotUrl.toList "addr" address with
    | error fault => rfl
    | ok sent =>
      obtain ⟨hfits, hstands, -⟩ := (Url.request_eq_ok_iff hurl habsolute).1 hsent
      exact absurd ⟨hfits, hstands⟩ hnot

/-- The parameter of a friendbot's URL is not sent. -/
theorem request_replaces_query_lost :
    let url : Url := ⟨"http".toList, [], ['h'], none, ['/', 'x'], some "a=b".toList, none⟩
    let network : Network := ⟨"local", "", "", some "http://h/x?a=b"⟩
    ∃ sent : Url,
      (network.fundWith (fun _ => none) (fun _ => ⟨.ok ⟨200, none, []⟩, .utf8, none⟩) none
        "G").requests = ["GET " ++ sent.text] ∧
      sent.SamePlace url ∧ url.parameters = [([97], [98])] ∧
      sent.parameters = [([97, 100, 100, 114], [71])] := by
  intro url network
  have hfits : (url.withParameter "addr" "G").Fits := by
    have hquery : (url.withParameter "addr" "G").query = some "addr=G".toList := by rfl
    refine ⟨by decide, by decide, by decide, fun query hmem => ?_, fun fragment hmem => ?_⟩
    · rw [hquery] at hmem
      rw [← Option.some.inj hmem]
      decide
    · exact absurd hmem (Option.not_mem_none fragment)
  have hfriendbot : network.friendbotUrl = some "http://h/x?a=b" := rfl
  obtain ⟨sent, hsent, hplace, hparameters⟩ := (request_replaces_query hfriendbot
    (by rfl : Url.ofText "http://h/x?a=b".toList = .ok url) (by rfl)
    (fun _ => none) (fun _ => ⟨.ok ⟨200, none, []⟩, .utf8, none⟩) none "G").1 ⟨hfits, by decide⟩
  exact ⟨sent, hsent, hplace, by rfl, hparameters⟩

end Network

end NamedKeys
