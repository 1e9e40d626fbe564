import NamedKeys.Proofs.Generate.Prepare

/-!
# Requests

A request makes options if its name and its path are accepted and it asks for one seed and one form at
most (`ofRequest_ok`); whether it asks to fund is no matter (`ofRequest_funded`).  Generating as a
request asks is `Request.run`.
-/

namespace NamedKeys.Generate

def Request.form (request : Request) : Form :=
  if request.asSecretKey then .secretKey else if request.inKeychain then .keychain else .phrase

def Request.chosenSeed (request : Request) : Option String :=
  if request.useTestSeed then some testSeed else request.seed

/-- A request that is granted. -/
structure Request.IsGranted (request : Request) (options : Options) : Prop where
  name : IdentityName.ofText request.name = .ok options.name
  inRange : ∀ index ∈ options.path, 0 ≤ index ∧ index < 2 ^ 31
  oneSeed : (request.seed.isSome && request.useTestSeed) = false
  oneForm : (request.asSecretKey && request.inKeychain) = false
  options_eq : options =
    ⟨options.name, request.chosenSeed, request.form, request.path, request.noFund⟩

theorem ofRequest_ok {request : Request} {options : Options}
    (h : Options.ofRequest request = .ok options) : request.IsGranted options := by
  unfold Options.ofRequest at h
  cases hname : IdentityName.ofText request.name with
  | error failure =>
    rw [hname] at h
    cases h
  | ok name =>
    cases hindex : checkIndex request.path with
    | error failure =>
      rw [hname, hindex] at h
      cases h
    | ok index =>
      rw [hname, hindex] at h
      simp only [bind, Except.bind] at h
      split at h
      · cases h
      · next hseed =>
        split at h
        · cases h
        · next hform =>
          obtain rfl := Except.ok.inj h
          exact ⟨hname, (checkIndex_eq_ok_iff.1 hindex).1, Bool.eq_false_iff.2 hseed,
            Bool.eq_false_iff.2 hform, rfl⟩

/-- A request is granted if its name and path are accepted and it asks for one seed and one form. -/
theorem ofRequest_of_accepted {request : Request} {name : IdentityName}
    (hname : request.name = name.text)
    (hpath : ∀ index ∈ request.path, 0 ≤ index ∧ index < 2 ^ 31)
    (hseed : (request.seed.isSome && request.useTestSeed) = false)
    (hform : (request.asSecretKey && request.inKeychain) = false) :
    Options.ofRequest request =
      .ok ⟨name, request.chosenSeed, request.form, request.path, request.noFund⟩ := by
  have hindex : checkIndex request.path = .ok (request.path.getD 0).toNat :=
    checkIndex_eq_ok_iff.2 ⟨hpath, rfl⟩
  have hnamed : IdentityName.ofText request.name = .ok name := by
    rw [hname]
    exact dif_pos name.hasForm
  rw [Options.ofRequest, hnamed, hindex]
  simp only [bind, Except.bind, hseed, hform, Bool.false_eq_true, if_false]
  rfl

/-! ## Entropy -/

/-- The entropy of the phrase of a request: the next random octets, a given seed, or the seed that tests
use. -/
inductive Request.HasEntropy (request : Request) (world : World) : List UInt8 → Prop
  | random {octets : List UInt8} (hseed : request.seed = none) (htest : request.useTestSeed = false)
      (hnext : world.randomness.head? = some octets) : HasEntropy request world octets
  | seed {text : String} (hseed : request.seed = some text) (htest : request.useTestSeed = false) :
      HasEntropy request world (Text.Utf8.encode text.toList)
  | test (hseed : request.seed = none) (htest : request.useTestSeed = true) :
      HasEntropy request world (Text.Utf8.encode testSeed.toList)

theorem Request.HasEntropy.oneSeed {request : Request} {world : World} {entropy : List UInt8}
    (h : request.HasEntropy world entropy) : (request.seed.isSome && request.useTestSeed) = false := by
  cases h with
  | random hseed => rw [hseed]; rfl
  | seed _ htest => rw [htest, Bool.and_false]
  | test hseed => rw [hseed]; rfl

theorem Request.HasEntropy.newPhrase {request : Request} {world : World} {entropy : List UInt8}
    (h : request.HasEntropy world entropy)
    (hlength : Mnemonic.entropyLengths.contains entropy.length = true) :
    newPhrase request.chosenSeed world = .ok (Mnemonic.phraseOfEntropy entropy) := by
  have hphrase : phraseOfEntropy entropy = .ok (Mnemonic.phraseOfEntropy entropy) := if_pos hlength
  cases h with
  | random hseed htest hnext =>
    obtain ⟨rest, hrandomness⟩ := List.head?_eq_some_iff.1 hnext
    have hnone : request.chosenSeed = none := by
      rw [chosenSeed, htest, hseed]
      rfl
    rw [hnone]
    unfold NamedKeys.newPhrase
    rw [hrandomness]
    exact hphrase
  | seed hseed htest =>
    rw [chosenSeed, htest, hseed]
    exact hphrase
  | test hseed htest =>
    rw [chosenSeed, htest]
    exact hphrase

/-! ## Funding -/

/-- What a generation is told about funding, with its funder. -/
structure Funding where
  fund : Bool
  noFund : Bool
  funder : Option Funder

def Request.funded (request : Request) (funding : Funding) : Request :=
  { request with fund := funding.fund, noFund := funding.noFund }

def Funding.called (funding : Funding) : Option Funder :=
  if funding.noFund then none else funding.funder

theorem ofRequest_funded (request : Request) (funding : Funding) :
    Options.ofRequest (request.funded funding) =
      (Options.ofRequest request).map fun options =>
        { options with skipsFunding := funding.noFund } := by
  unfold Options.ofRequest Request.funded
  cases IdentityName.ofText request.name with
  | error failure => rfl
  | ok name =>
    cases checkIndex request.path with
    | error failure => rfl
    | ok index =>
      simp only [bind, Except.bind]
      split
      · rfl
      · split <;> rfl

/-! ## Runs -/

/-- Generates an identity as a request asks. -/
def Request.run (request : Request) (store : Store) (keychain : Option Keychain)
    (funder : Option Funder) : Action Result := do
  Generate.run (← Action.ofExcept (Options.ofRequest request)) store keychain funder

/-- A request that is not granted changes nothing. -/
theorem Request.run_of_error {request : Request} {failure : Failure}
    (h : Options.ofRequest request = .error failure) (store : Store) (keychain : Option Keychain)
    (funder : Option Funder) (world : World) :
    (request.run store keychain funder).runOn world = (.error failure, world) := by
  rw [Request.run, h]
  rfl

theorem Request.run_of_ok {request : Request} {options : Options}
    (h : Options.ofRequest request = .ok options) (store : Store) (keychain : Option Keychain) :
    request.run store keychain = Generate.run options store keychain := by
  funext funder
  rw [Request.run, h]
  rfl

end NamedKeys.Generate
