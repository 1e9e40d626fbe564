import NamedKeys.Proofs.Generate.Again
import NamedKeys.Proofs.Generate.Requests
import NamedKeys.Proofs.Generate.Stored

/-!
# Funding what is stored

A generation stores the identity, and then calls its funder at most once, with the address of the pair
that the stored secret gives.  What is stored does not depend on the funder, nor on the options to fund
or not to fund:

    funding_leaves_stores

and an address that is given is the one that has been funded, whether its pair is new or was in the
keychain before:

    funded_address_is_stored
-/

namespace NamedKeys

open NamedKeys.Action

/-! ## Calls of funders -/

/-- A funder that notes the addresses it is called with, in the stead of its requests. -/
def Funder.noting (funder : Funder) : Funder := fun address =>
  { funder address with requests := [address] }

/-- The addresses with which an action calls its funder, in order. -/
def addressesFunded {α : Type} (action : Option Funder → Action α) (funder : Option Funder)
    (world : World) : List String :=
  ((action (funder.map Funder.noting)).runOn world).2.requests.drop world.requests.length

def World.SameRequests (world after : World) : Prop :=
  after.requests = world.requests

instance : World.IsFileFrame World.SameRequests where
  refl _ := rfl
  trans h h' := Eq.trans h' h
  quiet _ _ _ := rfl
  files _ _ := rfl

theorem World.SameRequests.allowsAsking (entry : String) : AllowsAsking SameRequests entry :=
  fun _ => rfl

theorem Keychain.allowsFilling_sameRequests (entry : String) :
    AllowsFilling World.SameRequests entry := by
  intro keychain world octets
  unfold putEntry
  split <;> rfl

namespace Generate

variable {options : Options} {store : Store} {keychain : Option Keychain} {funder : Option Funder}
  {world after : World} {secret : Secret} {existing : Option String}

theorem requests_storeNew {result : Except Failure (Secret × Option String)}
    (h : (storeNew options store keychain).runOn world = (result, after)) :
    after.requests = world.requests := by
  have hkeeps : World.SameRequests world ((storeNew options store keychain).runOn world).2 :=
    keeps_storeNew options store keychain (.allowsAsking _) (Keychain.allowsFilling_sameRequests _) world
  rwa [h] at hkeeps

/-! ## After the identity has been stored -/

/-- What becomes of a call of a funder: a failure of the network is given back, any other escapes. -/
def fundingOutcome : Except Failure Unit → Except Failure (Option Failure)
  | .ok () => .ok none
  | .error failure => if failure.family = .network then .ok (some failure) else .error failure

theorem runOn_fund (fund : Funder) (address : String) (world : World) :
    ∃ after, World.SameStores world after ∧
      after.requests = world.requests ++ (fund address).requests ∧
      (Action.fund fund address).runOn world = ((fund address).result, after) := by
  refine ⟨((Action.fund fund address).runOn world).2, keeps_fund fund address world, ?_, ?_⟩ <;>
    rw [Action.fund, runOn_bind_ok (runOn_modify _ _), runOn_ofExcept]

theorem runOn_tryFund (fund : Funder) (address : String) (world : World) :
    ∃ after, World.SameStores world after ∧
      after.requests = world.requests ++ (fund address).requests ∧
      (tryFund fund address).runOn world = (fundingOutcome (fund address).result, after) := by
  obtain ⟨middle, hsame, hrequests, hfund⟩ := runOn_fund fund address world
  have hattempt : (attempt (Action.fund fund address)).runOn world =
      (.ok (fund address).result, middle) := by
    rw [runOn_attempt, hfund]
  rw [tryFund, runOn_bind_ok hattempt]
  cases hresult : (fund address).result with
  | ok done => exact ⟨middle, hsame, hrequests, rfl⟩
  | error failure =>
    dsimp only [fundingOutcome]
    split
    · exact ⟨_, hsame.trans (keeps_log _ _ middle), hrequests, runOn_log_bind _ _ _ _⟩
    · exact ⟨middle, hsame, hrequests, rfl⟩

def Options.called (options : Options) (funder : Option Funder) : Option Funder :=
  if options.skipsFunding then none else funder

/-- How a generation ends that has stored an identity, when the pair of its secret is known. -/
def ending (name : IdentityName) (stored : Secret × Option String) (pair : KeyPair) :
    Option Funder → Except Failure Result
  | none => .ok ⟨name, stored.1, none, false, stored.2, none⟩
  | some fund => (fundingOutcome (fund pair.address).result).map fun failure =>
    ⟨name, stored.1, some pair.address, failure.isNone, stored.2, failure⟩

theorem runOn_announce {stored : Secret × Option String} {pair : KeyPair}
    (hpair : pairOfSecret world stored.1 options.path keychain = .ok pair) (funder : Option Funder) :
    ∃ after, World.SameStores world after ∧
      after.requests = world.requests ++
        (options.called funder).toList.flatMap (fun fund => (fund pair.address).requests) ∧
      (announce options keychain funder stored).runOn world =
        (ending options.name stored pair (options.called funder), after) := by
  unfold announce
  rw [← Options.called]
  cases options.called funder with
  | none => exact ⟨world, .refl world, (List.append_nil _).symm, rfl⟩
  | some fund =>
    have hderive := runOn_keyPairOfSecret stored.1 options.path keychain world
    rw [hpair] at hderive
    have hask : Keeps World.SameStores (keyPairOfSecret stored.1 options.path keychain) :=
      keeps_keyPairOfSecret _ _ _ fun entry _ => .allowsAsking entry
    have hquiet : Keeps World.SameRequests (keyPairOfSecret stored.1 options.path keychain) :=
      keeps_keyPairOfSecret _ _ _ fun entry _ => .allowsAsking entry
    obtain ⟨after, hsame, hrequests, hfund⟩ := runOn_tryFund fund pair.address
      ((keyPairOfSecret stored.1 options.path keychain).runOn world).2
    refine ⟨after, (hask world).trans hsame, ?_, ?_⟩
    · rw [hrequests, hquiet world]
      simp
    · dsimp only
      rw [runOn_bind_ok (Prod.ext hderive rfl), runOn_bind, hfund, ending]
      cases fundingOutcome (fund pair.address).result <;> rfl

/-- A generation that stores nothing calls no funder, and does the same with any. -/
theorem run_of_storeNew_error {failure : Failure}
    (h : (storeNew options store keychain).runOn world = (.error failure, after))
    (funder : Option Funder) :
    (run options store keychain funder).runOn world = (.error failure, after) ∧
      addressesFunded (run options store keychain) funder world = [] := by
  have hrun : ∀ other, (run options store keychain other).runOn world = (.error failure, after) :=
    fun other => by rw [run_eq, runOn_bind_error h]
  refine ⟨hrun funder, ?_⟩
  rw [addressesFunded, hrun, requests_storeNew h, List.drop_length]

/-- A generation that has stored an identity calls its funder with the address of the pair of the
secret. -/
theorem run_of_storeNew_ok {stored : Secret × Option String} {pair : KeyPair}
    (h : (storeNew options store keychain).runOn world = (.ok stored, after))
    (hpair : pairOfSecret after stored.1 options.path keychain = .ok pair) (funder : Option Funder) :
    (∃ last, World.SameStores after last ∧
      (run options store keychain funder).runOn world =
        (ending options.name stored pair (options.called funder), last)) ∧
      addressesFunded (run options store keychain) funder world =
        (options.called funder).toList.map fun _ => pair.address := by
  have hrun : ∀ other, (run options store keychain other).runOn world =
      (announce options keychain other stored).runOn after :=
    fun other => by rw [run_eq, runOn_bind_ok h]
  constructor
  · obtain ⟨last, hsame, -, hannounce⟩ := runOn_announce hpair funder
    exact ⟨last, hsame, (hrun funder).trans hannounce⟩
  · obtain ⟨last, -, hrequests, hannounce⟩ := runOn_announce hpair (funder.map Funder.noting)
    rw [addressesFunded, hrun, hannounce]
    dsimp only
    rw [hrequests, requests_storeNew h, List.drop_left]
    unfold Options.called
    cases options.skipsFunding <;> cases funder <;> rfl

/-- Noting the calls of a funder makes no difference to the result. -/
theorem run_noting (hpath : ∀ index ∈ options.path, 0 ≤ index ∧ index < 2 ^ 31) (store : Store)
    (keychain : Option Keychain) (funder : Option Funder) (world : World) :
    ((run options store keychain (funder.map Funder.noting)).runOn world).1 =
      ((run options store keychain funder).runOn world).1 := by
  rcases hstore : (storeNew options store keychain).runOn world with ⟨failure | stored, after⟩
  · rw [(run_of_storeNew_error hstore _).1, (run_of_storeNew_error hstore _).1]
  · obtain ⟨pair, hpair⟩ := exists_pair_of_storeNew hpath hstore
    obtain ⟨⟨noted, -, hnoted⟩, -⟩ := run_of_storeNew_ok hstore hpair (funder.map Funder.noting)
    obtain ⟨⟨last, -, hrun⟩, -⟩ := run_of_storeNew_ok hstore hpair funder
    rw [hnoted, hrun]
    unfold Options.called
    cases options.skipsFunding <;> cases funder <;> rfl

/-! ## Any two fundings -/

/-- How a generation ends that has stored an identity, where `called` is the funder that it is to call:
it has called the funder once with the address of the identity, it fails only with a failure of the
funder that is none of the network, and else its result tells what the funder did. -/
structure HasFunded (called : Option Funder) (secret : Secret) (existing : Option String)
    (address : String) (calls : List String) (result : Except Failure Result) : Prop where
  calls_eq : calls = called.toList.map fun _ => address
  escaped : ∀ failure, result = .error failure ↔
    failure.family ≠ .network ∧ ∃ fund ∈ called, (fund address).result = .error failure
  secret_eq : ∀ given, result = .ok given → given.secret = secret
  existing_eq : ∀ given, result = .ok given → given.existingAddress = existing
  funded : ∀ given, result = .ok given →
    (given.funded = true ↔ ∃ fund ∈ called, (fund address).result = .ok ())
  refused : ∀ given, result = .ok given → ∀ failure, given.fundingFailure = some failure ↔
    failure.family = .network ∧ ∃ fund ∈ called, (fund address).result = .error failure

theorem hasFunded_ending (name : IdentityName) (stored : Secret × Option String) (pair : KeyPair)
    (called : Option Funder) :
    HasFunded called stored.1 stored.2 pair.address (called.toList.map fun _ => pair.address)
      (ending name stored pair called) := by
  cases called with
  | none => constructor <;> simp [ending]
  | some fund =>
    cases hresult : (fund pair.address).result with
    | ok done => constructor <;> simp [ending, fundingOutcome, hresult, Except.map]
    | error failure =>
      by_cases hfamily : failure.family = .network
      · have hother : ∀ other : Failure, other.family ≠ .network → ¬ failure = other := by
          rintro other hother rfl
          exact hother hfamily
        constructor <;> simp +contextual [ending, fundingOutcome, hresult, hfamily, hother, Except.map]
      · constructor <;> simp +contextual [ending, fundingOutcome, hresult, hfamily, Except.map]

/-- Whatever it is told about funding, a generation fails in one way before it calls a funder, or it
stores one identity first. -/
theorem run_funded_cases (request : Request) (store : Store) (keychain : Option Keychain)
    (world : World) :
    (∃ failure after, ∀ funding : Funding,
      ((request.funded funding).run store keychain funding.funder).runOn world =
          (.error failure, after) ∧
        addressesFunded ((request.funded funding).run store keychain) funding.funder world = []) ∨
      ∃ name secret existing pair after, IdentityName.ofText request.name = .ok name ∧
        (∀ other, World.SameStores after other →
          (store.read name).runOn other = (.ok secret, other)) ∧
        ∀ funding : Funding,
          (∃ last, World.SameStores after last ∧
            ((request.funded funding).run store keychain funding.funder).runOn world =
              (ending name (secret, existing) pair funding.called, last)) ∧
            addressesFunded ((request.funded funding).run store keychain) funding.funder world =
              funding.called.toList.map fun _ => KeyPair.address pair := by
  cases hoptions : Options.ofRequest request with
  | error failure =>
    refine .inl ⟨failure, world, fun funding => ?_⟩
    have hrefused : Options.ofRequest (request.funded funding) = .error failure := by
      rw [ofRequest_funded, hoptions]
      rfl
    refine ⟨Request.run_of_error hrefused _ _ _ _, ?_⟩
    rw [addressesFunded, Request.run_of_error hrefused, List.drop_length]
  | ok options =>
    have hgranted : ∀ funding : Funding, Options.ofRequest (request.funded funding) =
        .ok { options with skipsFunding := funding.noFund } := by
      intro funding
      rw [ofRequest_funded, hoptions]
      rfl
    -- storing does not look at what is said about funding: one run of it serves every funding
    match hstore : (storeNew options store keychain).runOn world with
    | (.error failure, after) =>
      refine .inl ⟨failure, after, fun funding => ?_⟩
      have hfunded : (storeNew { options with skipsFunding := funding.noFund } store keychain).runOn
          world = (.error failure, after) := hstore
      rw [Request.run_of_ok (hgranted funding)]
      exact run_of_storeNew_error hfunded funding.funder
    | (.ok (secret, existing), after) =>
      obtain ⟨pair, hpair⟩ := exists_pair_of_storeNew (ofRequest_ok hoptions).inRange hstore
      refine .inr ⟨options.name, secret, existing, pair, after, (ofRequest_ok hoptions).name,
        fun other hsame => read_of_storeNew hstore hsame, fun funding => ?_⟩
      have hfunded : (storeNew { options with skipsFunding := funding.noFund } store keychain).runOn
          world = (.ok (secret, existing), after) := hstore
      rw [Request.run_of_ok (hgranted funding)]
      exact run_of_storeNew_ok hfunded hpair funding.funder

end Generate

/-- Two generations of one request in one world, which differ only in what they are told about funding
and in their funders, end with the same files and keychains.  Both fail in the same way and call no
funder, or both have stored the same identity, of which the files of both give the secret. -/
theorem funding_leaves_stores (request : Generate.Request) (store : Store)
    (keychain : Option Keychain) (world : World) (one other : Generate.Funding) :
    let action (funding : Generate.Funding) := (request.funded funding).run store keychain
    let first := (action one one.funder).runOn world
    let second := (action other other.funder).runOn world
    let calls (funding : Generate.Funding) := addressesFunded (action funding) funding.funder world
    World.SameStores first.2 second.2 ∧
      ((∃ failure, first.1 = .error failure ∧ second.1 = .error failure ∧
          calls one = [] ∧ calls other = []) ∨
        ∃ name secret existing address, IdentityName.ofText request.name = .ok name ∧
          (store.read name).runOn first.2 = (.ok secret, first.2) ∧
          (store.read name).runOn second.2 = (.ok secret, second.2) ∧
          Generate.HasFunded one.called secret existing address (calls one) first.1 ∧
          Generate.HasFunded other.called secret existing address (calls other) second.1) := by
  dsimp only
  rcases Generate.run_funded_cases request store keychain world with
    ⟨failure, after, hfails⟩ | ⟨name, secret, existing, pair, after, hname, hread, hends⟩
  · obtain ⟨hone, hcalls⟩ := hfails one
    obtain ⟨hother, hcalls'⟩ := hfails other
    rw [hone, hother]
    exact ⟨.refl after, .inl ⟨failure, rfl, rfl, hcalls, hcalls'⟩⟩
  · obtain ⟨⟨last, hsame, hone⟩, hcalls⟩ := hends one
    obtain ⟨⟨last', hsame', hother⟩, hcalls'⟩ := hends other
    rw [hone, hother, hcalls, hcalls']
    refine ⟨hsame.symm.trans hsame', .inr ⟨name, secret, existing, pair.address, hname,
      hread last hsame, hread last' hsame', ?_, ?_⟩⟩
    · exact Generate.hasFunded_ending name (secret, existing) pair one.called
    · exact Generate.hasFunded_ending name (secret, existing) pair other.called

/-! ## The address that is funded -/

/-- The address of an identity at a path. -/
def addressOf (store : Store) (name : IdentityName) (path : Option Int) (keychain : Option Keychain) :
    Action String := do
  return (← keyPairOfSecret (← store.read name) path keychain).address

theorem runOn_addressOf {store : Store} {name : IdentityName} {keychain : Option Keychain}
    {world : World} {secret : Secret} {path : Option Int} {pair : KeyPair}
    (hread : (store.read name).runOn world = (.ok secret, world))
    (hpair : pairOfSecret world secret path keychain = .ok pair) :
    ((addressOf store name path keychain).runOn world).1 = .ok pair.address := by
  have hderive := runOn_keyPairOfSecret secret path keychain world
  rw [hpair] at hderive
  rw [addressOf, runOn_bind_ok hread, runOn_bind_ok (Prod.ext hderive rfl)]
  rfl

namespace Generate

theorem ending_address {name : IdentityName} {stored : Secret × Option String} {pair : KeyPair}
    {called : Option Funder} {result : Result} {address : String}
    (h : ending name stored pair called = .ok result) (haddress : result.address = some address) :
    address = pair.address ∧ ∃ fund, called = some fund := by
  cases called with
  | none =>
    rw [← Except.ok.inj h] at haddress
    cases haddress
  | some fund =>
    rw [ending] at h
    cases houtcome : fundingOutcome (fund pair.address).result with
    | error failure =>
      rw [houtcome] at h
      cases h
    | ok failure =>
      rw [houtcome] at h
      rw [← Except.ok.inj h] at haddress
      exact ⟨(Option.some.inj haddress).symm, fund, rfl⟩

/-- The pair of an identity whose address is given. -/
theorem pair_of_address {stored : Secret × Option String} {result : Result} {address : String}
    (h : (announce options keychain funder stored).runOn world = (.ok result, after))
    (haddress : result.address = some address) :
    ∃ pair, pairOfSecret world stored.1 options.path keychain = .ok pair := by
  unfold announce at h
  split at h
  · rw [← Except.ok.inj (Prod.mk.inj h).1] at haddress
    cases haddress
  · obtain ⟨pair, middle, hderive, -⟩ := exists_of_runOn_bind h
    rw [← runOn_keyPairOfSecret, hderive]
    exact ⟨pair, rfl⟩

/-- A generation that succeeds without a funder succeeds with one that funds every address. -/
theorem run_funding {first : Result} {fund : Funder} (hskip : options.skipsFunding = false)
    (hpath : ∀ index ∈ options.path, 0 ≤ index ∧ index < 2 ^ 31)
    (hfund : ∀ address, (fund address).result = .ok ())
    (h : (run options store keychain none).runOn world = (.ok first, after)) :
    ∃ address last, (run options store keychain (some fund)).runOn world =
      (.ok { first with address := some address, funded := true }, last) := by
  rw [run_eq] at h
  obtain ⟨stored, middle, hstore, hannounce⟩ := exists_of_runOn_bind h
  obtain ⟨pair, hpair⟩ := exists_pair_of_storeNew hpath hstore
  obtain ⟨last, -, -, hnone⟩ := runOn_announce hpair none
  obtain ⟨⟨last', -, hrun⟩, -⟩ := run_of_storeNew_ok hstore hpair (some fund)
  rw [hnone, Options.called, hskip] at hannounce
  rw [Options.called, hskip] at hrun
  have hfirst := Except.ok.inj (Prod.mk.inj hannounce).1
  refine ⟨pair.address, last', ?_⟩
  rw [hrun, ← hfirst]
  simp [ending, fundingOutcome, hfund, Except.map]

end Generate

/-- An address that a generation gives is the one that has been funded, and the address of the identity
that has been stored, at the path of the options and, unless the identity is a phrase, at any path.  If
a pair was in the keychain before, it is the address of that pair. -/
theorem funded_address_is_stored {options : Generate.Options} {store : Store}
    {keychain : Option Keychain} {funder : Option Funder} {world after : World}
    {result : Generate.Result} {address : String}
    (h : (Generate.run options store keychain funder).runOn world = (.ok result, after))
    (haddress : result.address = some address) :
    addressesFunded (Generate.run options store keychain) funder world = [address] ∧
      (store.read options.name).runOn after = (.ok result.secret, after) ∧
      ((addressOf store options.name options.path keychain).runOn after).1 = .ok address ∧
      (∀ existing, result.existingAddress = some existing → existing = address) ∧
      (options.form ≠ .phrase → ∀ path,
        ((addressOf store options.name path keychain).runOn after).1 = .ok address) := by
  have hsplit := h
  rw [Generate.run_eq] at hsplit
  obtain ⟨⟨secret, existing⟩, middle, hstore, hannounce⟩ := exists_of_runOn_bind hsplit
  obtain ⟨pair, hpair⟩ := Generate.pair_of_address hannounce haddress
  obtain ⟨⟨last, hsame, hrun⟩, hcalls⟩ := Generate.run_of_storeNew_ok hstore hpair funder
  rw [h] at hrun
  obtain ⟨hending, rfl⟩ := Prod.mk.inj hrun
  obtain ⟨rfl, fund, hcalled⟩ := Generate.ending_address hending.symm haddress
  have hfunded := Generate.hasFunded_ending options.name (secret, existing) pair
    (options.called funder)
  have hsecret : result.secret = secret := hfunded.secret_eq result hending.symm
  have hexisting : result.existingAddress = existing := hfunded.existing_eq result hending.symm
  have hread : (store.read options.name).runOn after = (.ok secret, after) :=
    Generate.read_of_storeNew hstore hsame
  have hlast : pairOfSecret after secret options.path keychain = .ok pair := by
    rw [pairOfSecret_congr hsame.sameKeychains]
    exact hpair
  refine ⟨by rw [hcalls, hcalled]; rfl, by rw [hsecret, hread], runOn_addressOf hread hlast, ?_, ?_⟩
  · rintro found hfound
    rw [hexisting] at hfound
    -- the pair that was found is the one that the stored secret gives, since both are in its entry
    rcases Generate.pair_of_storeNew hstore with ⟨hnone, -⟩ | ⟨other, hother, hheld⟩
    · rw [hnone] at hfound
      cases hfound
    · rw [hpair] at hheld
      rw [hother, ← Except.ok.inj hheld] at hfound
      exact (Option.some.inj hfound).symm
  · intro hform path
    have hkind : secret.kind ≠ .seedPhrase := by
      rwa [Generate.kind_of_storeNew hstore, ne_eq, Generate.Form.kind_eq_seedPhrase_iff]
    exact runOn_addressOf hread (by rw [pairOfSecret_path hkind after path options.path, hlast])

def Funder.willing : Funder := fun _ => ⟨.ok (), [], []⟩

/-- Two generations into the keychain in memory, of which the second one funds the address of the
first. -/
theorem funded_address_is_stored_again :
    let store : Store := ⟨⟨"", ["store"]⟩⟩
    ∃ first middle result after address,
      (Generate.run keychainOptions store (some .memory) none).runOn .bare = (.ok first, middle) ∧
      (Generate.run keychainOptions store (some .memory) (some Funder.willing)).runOn middle =
        (.ok result, after) ∧
      result.existingAddress = some address ∧ result.address = some address ∧
      ((addressOf store keychainOptions.name (some 5) (some .memory)).runOn after).1 =
        .ok address := by
  intro store
  obtain ⟨first, middle, hfirst⟩ := run_keychainOptions
  obtain ⟨made, pair, -, -, -, hagain⟩ := Generate.run_again rfl (.inr rfl) hfirst
  obtain ⟨hsecond, -⟩ := hagain keychainOptions.seed none middle (.refl middle)
  have hpath : ∀ index ∈ keychainOptions.path, 0 ≤ index ∧ index < 2 ^ 31 := by
    rintro index ⟨⟩
  have hresult := hsecond hpath
  rw [newPhrase_testSeed] at hresult
  have hwilling : ∀ address, (Funder.willing address).result = .ok () := fun _ => rfl
  obtain ⟨last, hunfunded⟩ := exists_of_runOn_fst hresult
  obtain ⟨address, after, hrun⟩ := Generate.run_funding rfl hpath hwilling hunfunded
  obtain ⟨-, -, -, hexisting, hother⟩ := funded_address_is_stored hrun rfl
  refine ⟨first, middle, _, after, address, hfirst, hrun, ?_, rfl, hother (by decide) (some 5)⟩
  exact congrArg some (hexisting pair.address rfl)

end NamedKeys
