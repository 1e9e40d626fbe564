import NamedKeys.Proofs.Generate.Funding

/-!
# One pair in three forms

From one entropy and one path, an identity that is stored as a phrase, as a secret key or in a keychain
gives one pair, wherever it is stored and under whatever name: the phrase at this path, the others at
any path.

    forms_hold_one_pair
-/

namespace NamedKeys

open NamedKeys.Action

namespace Generate

/-- A generation that can store what it makes stores a secret that gives its pair, at its path and, unless
it is a phrase, at any other. -/
theorem run_unfunded_ok {options : Options} {store : Store} {keychain : Option Keychain}
    {world : World} {pair : KeyPair} (hpair : newPair options world = .ok pair)
    (hfile : store.IsWritable options.name world)
    (hentry : options.form = .keychain → HasFreeEntry keychain options.name world) :
    ∃ result after, (run options store keychain none).runOn world = (.ok result, after) ∧
      result.secret.kind = options.form.kind ∧
      (store.read options.name).runOn after = (.ok result.secret, after) ∧
      ∀ path, (options.form = .phrase → path = options.path) →
        ((keyPairOfSecret result.secret path keychain).runOn after).1 = .ok pair := by
  obtain ⟨secret, middle, hstore⟩ := storeNew_succeeds hpair hfile hentry
  have hstored : pairOfSecret middle secret options.path keychain = .ok pair := by
    rcases pair_of_storeNew hstore with ⟨-, hnew⟩ | ⟨other, hother, -⟩
    · exact hnew.trans hpair
    · cases hother
  obtain ⟨⟨after, hsame, hrun⟩, -⟩ := run_of_storeNew_ok hstore hstored none
  rw [Options.called, ite_self] at hrun
  have hkind := kind_of_storeNew hstore
  refine ⟨_, after, hrun, hkind, read_of_storeNew hstore hsame, fun path hpath => ?_⟩
  rw [runOn_keyPairOfSecret, pairOfSecret_congr hsame.sameKeychains, ← hstored]
  by_cases hphrase : secret.kind = .seedPhrase
  · rw [hpath (Form.kind_eq_seedPhrase_iff.1 (hkind.symm.trans hphrase))]
  · exact pairOfSecret_path hphrase middle path options.path keychain

/-- What is needed for a request to be met: an accepted name, one form, a file that can be written and,
for the keychain, an entry that is free. -/
structure Request.CanBeMet (request : Request) (name : IdentityName) (store : Store)
    (keychain : Option Keychain) (world : World) : Prop where
  name_eq : request.name = name.text
  oneForm : (request.asSecretKey && request.inKeychain) = false
  file : store.IsWritable name world
  entry : request.form = .keychain → HasFreeEntry keychain name world

end Generate

/-- From an entropy and a path comes one pair.  Any request with this entropy and this path that can be
met, of whatever name and in whatever form, store and keychain, is met with a secret of that form, which
is read back and gives this pair: at the path if it is a phrase, and else at any path. -/
theorem forms_hold_one_pair {entropy : List UInt8} {path : Option Int}
    (hlength : Mnemonic.entropyLengths.contains entropy.length = true)
    (hpath : ∀ index ∈ path, 0 ≤ index ∧ index < 2 ^ 31) :
    ∃ pair, pairOfPhrase (Mnemonic.phraseOfEntropy entropy) path = .ok pair ∧
      ∀ (request : Generate.Request) (name : IdentityName) (store : Store)
        (keychain : Option Keychain) (world : World), request.CanBeMet name store keychain world →
        request.HasEntropy world entropy → request.path = path →
        ∃ result after, (request.run store keychain none).runOn world = (.ok result, after) ∧
          result.secret.kind = request.form.kind ∧
          (store.read name).runOn after = (.ok result.secret, after) ∧
          ∀ other, (request.form = .phrase → other = path) →
            ((keyPairOfSecret result.secret other keychain).runOn after).1 = .ok pair := by
  obtain ⟨pair, hpair⟩ := pairOfPhrase_phraseOfEntropy hlength hpath
  refine ⟨pair, hpair, ?_⟩
  rintro request name store keychain world hmet hentropy rfl
  have hoptions :=
    Generate.ofRequest_of_accepted hmet.name_eq hpath hentropy.oneSeed hmet.oneForm
  rw [Generate.Request.run_of_ok hoptions]
  exact Generate.run_unfunded_ok ((Generate.newPair_eq (hentropy.newPhrase hlength)).trans hpair)
    hmet.file hmet.entry

def testRequest (asSecretKey inKeychain : Bool) : Generate.Request :=
  ⟨"a", none, true, asSecretKey, inKeychain, some 7, false, false⟩

/-- The three forms from this seed, with the pair of each at its own path or at another. -/
theorem forms_hold_one_pair_testRequest :
    let store : Store := ⟨⟨"", ["store"]⟩⟩
    ∃ pair phrase secretKey keychain afterPhrase afterSecretKey afterKeychain,
      ((testRequest false false).run store none none).runOn .bare = (.ok phrase, afterPhrase) ∧
      ((testRequest true false).run store none none).runOn .bare = (.ok secretKey, afterSecretKey) ∧
      ((testRequest false true).run store (some .memory) none).runOn .bare =
        (.ok keychain, afterKeychain) ∧
      ((keyPairOfSecret phrase.secret (some 7) none).runOn afterPhrase).1 = .ok pair ∧
      ((keyPairOfSecret secretKey.secret (some (-3)) none).runOn afterSecretKey).1 = .ok pair ∧
      ((keyPairOfSecret keychain.secret none (some .memory)).runOn afterKeychain).1 = .ok pair := by
  intro store
  have hlength : Mnemonic.entropyLengths.contains (Text.Utf8.encode testSeed.toList).length = true := by
    decide
  have hpath : ∀ index ∈ some (7 : Int), 0 ≤ index ∧ index < 2 ^ 31 := by
    rintro index ⟨⟩
    decide
  have hfile : store.IsWritable ⟨"a", by decide⟩ .bare :=
    (Store.Keeps.fresh Store.isFresh_bare fun _ => rfl).isWritable _ (by decide) rfl
  obtain ⟨pair, -, hmet⟩ := forms_hold_one_pair hlength hpath
  obtain ⟨phrase, afterPhrase, hphrase, -, -, hpair⟩ := hmet (testRequest false false) _ store none
    .bare ⟨rfl, rfl, hfile, by rintro ⟨⟩⟩ (.test rfl rfl) rfl
  obtain ⟨secretKey, afterSecretKey, hsecretKey, -, -, hpair'⟩ := hmet (testRequest true false) _
    store none .bare ⟨rfl, rfl, hfile, by rintro ⟨⟩⟩ (.test rfl rfl) rfl
  obtain ⟨keychain, afterKeychain, hkeychain, -, -, hpair''⟩ := hmet (testRequest false true) _
    store (some .memory) .bare ⟨rfl, rfl, hfile, fun _ => ⟨.memory, rfl, rfl, trivial⟩⟩
    (.test rfl rfl) rfl
  refine ⟨pair, phrase, secretKey, keychain, afterPhrase, afterSecretKey, afterKeychain, hphrase,
    hsecretKey, hkeychain, hpair _ fun _ => rfl, hpair' _ ?_, hpair'' _ ?_⟩ <;> rintro ⟨⟩

end NamedKeys
