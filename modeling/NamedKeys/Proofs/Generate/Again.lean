import NamedKeys.Proofs.Generate.Steps
import NamedKeys.Proofs.Generate.Stored

/-!
# Generating again

An entry of a keychain is written once.  A pair is stored where nothing was, and everything that was
there stays (`keepsEntries_afterSteps`); so a generation into a keychain that follows another of the
same name gives the address of the pair that the first one left, whatever pair it derives itself, and
leaves files and keychains as they are (`run_again`).  The three together are

    entries_written_once
-/

namespace NamedKeys

open NamedKeys.Action

/-! ## Storing in an entry -/

namespace Keychain

variable (keychain : Keychain) (entry : String) (pair : KeyPair) (world : World)

/-- A pair is written exactly where nothing was. -/
theorem store_eq_none_iff :
    ((keychain.store entry pair).runOn world).1 = .ok none ↔
      keychain.reading world entry = .ok none ∧
        keychain.reading ((keychain.store entry pair).runOn world).2 entry =
          .ok (some pair.octets) := by
  have hstored := keychain.stored entry pair world
  generalize (keychain.store entry pair).runOn world = run at hstored ⊢
  obtain ⟨result, after⟩ := run
  constructor
  · rintro rfl
    cases hstored with
    | created habsent hsame =>
      refine ⟨habsent, reading_putEntry keychain entry _ ?_⟩
      rw [reading_congr hsame.sameKeychains, habsent]
  · rintro ⟨habsent, hwritten⟩
    cases hstored with
    | created _ hsame => rfl
    | present hother haddress hsame =>
      obtain ⟨octets, hread, -⟩ := hother
      rw [habsent] at hread
      cases hread
    | refused _ hsame =>
      rw [reading_congr hsame.sameKeychains, habsent] at hwritten
      cases hwritten
    | corrupt hthere hnone hsame => exact absurd habsent hthere

/-- An address is given exactly where a consistent pair was, and it is the address of that pair. -/
theorem store_eq_some_iff (address : String) :
    ((keychain.store entry pair).runOn world).1 = .ok (some address) ↔
      ∃ other, keychain.HoldsPair world entry other ∧ other.address = address := by
  have hstored := keychain.stored entry pair world
  generalize (keychain.store entry pair).runOn world = run at hstored ⊢
  obtain ⟨result, after⟩ := run
  constructor
  · rintro rfl
    cases hstored with
    | present hother haddress hsame => exact ⟨_, hother, haddress⟩
  · rintro ⟨other, hother, rfl⟩
    exact (hstored.of_holdsPair hother).1

/-- Nothing is written unless the pair is. -/
theorem sameStores_store (h : ((keychain.store entry pair).runOn world).1 ≠ .ok none) :
    World.SameStores world ((keychain.store entry pair).runOn world).2 := by
  have hstored := keychain.stored entry pair world
  generalize (keychain.store entry pair).runOn world = run at hstored h ⊢
  obtain ⟨result, after⟩ := run
  cases hstored with
  | created habsent hsame => exact absurd rfl h
  | present hother haddress hsame => exact hsame
  | refused habsent hsame => exact hsame
  | corrupt hthere hnone hsame => exact hsame

end Keychain

namespace Generate

variable {options : Options} {store : Store} {keychain : Keychain} {funder : Option Funder}
  {world after : World}

/-! ## Generations without a funder -/

/-- A generation that funds nothing only stores the identity. -/
theorem run_unfunded (hfund : options.skipsFunding = true ∨ funder = none) (store : Store)
    (keychain : Option Keychain) :
    run options store keychain funder =
      (fun stored => ⟨options.name, stored.1, none, false, stored.2, none⟩) <$>
        storeNew options store keychain := by
  have hnone : (if options.skipsFunding then none else funder) = none := by
    rcases hfund with hskip | rfl
    · rw [if_pos hskip]
    · exact ite_self _
  have hannounce : announce options keychain funder =
      fun stored => pure ⟨options.name, stored.1, none, false, stored.2, none⟩ := by
    funext stored
    rw [announce, hnone]
  rw [run_eq, hannounce, map_eq_pure_bind]

/-- When an identity has been stored in a keychain, its entry holds a pair, and the file has been
written last. -/
theorem storeNew_keychain_ok (hform : options.form = .keychain) {secret : Secret}
    {existing : Option String}
    (h : (storeNew options store (some keychain)).runOn world = (.ok (secret, existing), after)) :
    secret = .keychain (entryOf options.name) ∧
      ∃ middle made pair, newPair options world = .ok made ∧
        (store.write options.name secret).runOn middle = (.ok (), after) ∧
        keychain.HoldsPair after (entryOf options.name) pair ∧
        pair.address = existing.getD made.address := by
  obtain ⟨middle, hprepared, hwrite⟩ := storeNew_ok h
  obtain ⟨rfl, chosen, made, start, hchosen, hmade, hsame, hstored⟩ := hprepared.keychain_ok hform
  obtain rfl := Option.some.inj hchosen
  obtain ⟨phrase, -, hderived⟩ := newPair_ok hmade
  obtain ⟨key, hkey, rfl⟩ := pairOfPhrase_ok hderived
  obtain ⟨pair, hpair, haddress⟩ := hstored.holdsPair hkey
  have hkeychains : World.SameKeychains middle ((store.write options.name
      (.keychain (entryOf options.name))).runOn middle).2 :=
    store.keeps_write _ _ middle
  rw [hwrite] at hkeychains
  exact ⟨rfl, middle, _, pair, hmade, hwrite, hpair.congr hkeychains, haddress⟩

/-! ## A second generation -/

/-- Storing again gives the address of the pair in the entry, or fails where the new phrase or path
does; the files and keychains are as they were in either case. -/
theorem storeNew_again (hform : options.form = .keychain) {pair : KeyPair} {start : World}
    (hpair : keychain.HoldsPair world (entryOf options.name) pair)
    (hwrite : (store.write options.name (.keychain (entryOf options.name))).runOn start =
      (.ok (), after)) (hsame : World.SameStores after world) :
    ((storeNew options store (some keychain)).runOn world).1 =
        (newPair options world).map (fun _ => (.keychain (entryOf options.name), some pair.address)) ∧
      (∀ place, ((storeNew options store (some keychain)).runOn world).2.files.get? place =
        after.files.get? place) ∧
      World.SameKeychains world ((storeNew options store (some keychain)).runOn world).2 := by
  cases hmade : newPair options world with
  | error failure =>
    obtain ⟨last, hlast, hrun⟩ := runOn_prepare_keychain_error hform hmade keychain
    rw [storeNew_eq, runOn_bind_error hrun]
    refine ⟨rfl, fun place => ?_, hlast.sameKeychains⟩
    rw [hlast.files, hsame.files]
  | ok made =>
    obtain ⟨middle, hmiddle, hrun⟩ := runOn_prepare_keychain hform hmade keychain
    have hstored := (keychain.stored (entryOf options.name) made middle).of_holdsPair
      (hpair.congr hmiddle.sameKeychains)
    generalize (keychain.store (entryOf options.name) made).runOn middle = stored at hrun hstored
    obtain ⟨result, second⟩ := stored
    obtain ⟨rfl, hsecond⟩ : result = .ok (some pair.address) ∧ World.SameStores middle second := hstored
    have hbefore : World.SameStores world second := hmiddle.trans hsecond
    obtain ⟨last, hagain, hfiles⟩ := Store.write_again hwrite (hsame.trans hbefore)
    have hlast : World.SameKeychains second ((store.write options.name
        (.keychain (entryOf options.name))).runOn second).2 :=
      store.keeps_write _ _ second
    rw [hagain] at hlast
    rw [storeNew_eq, runOn_bind_ok hrun, runOn_bind_ok hagain]
    exact ⟨rfl, hfiles, hbefore.sameKeychains.trans hlast⟩

/-- A generation into a keychain after one of the same name, with any seed, random octets and path:
it gives the address of the pair that the first has left, if its own phrase can be made, and files and
keychains are left as they are in any case. -/
theorem run_again (hform : options.form = .keychain)
    (hfund : options.skipsFunding = true ∨ funder = none) {first : Result}
    (h : (run options store (some keychain) funder).runOn world = (.ok first, after)) :
    ∃ made pair, newPair options world = .ok made ∧
      keychain.HoldsPair after (entryOf options.name) pair ∧
      pair.address = first.existingAddress.getD made.address ∧
      ∀ (seed : Option String) (path : Option Int) (other : World), World.SameStores after other →
        let second := (run { options with seed, path } store (some keychain) funder).runOn other
        ((∀ index ∈ path, 0 ≤ index ∧ index < 2 ^ 31) → second.1 = (newPhrase seed other).map fun _ =>
            { first with existingAddress := some pair.address }) ∧
          (∀ place, second.2.files.get? place = after.files.get? place) ∧
          second.2.memory = after.memory ∧ second.2.keyring = after.keyring := by
  rw [run_unfunded hfund] at h
  have hfirst := congrArg Prod.fst h
  have hlast := congrArg Prod.snd h
  rw [runOn_map_fst] at hfirst
  rw [runOn_map_snd] at hlast
  match hstore : ((storeNew options store (some keychain)).runOn world).1 with
  | .error failure =>
    rw [hstore] at hfirst
    cases hfirst
  | .ok (secret, existing) =>
    rw [hstore] at hfirst
    obtain ⟨rfl, start, made, pair, hmade, hwrite, hpair, haddress⟩ :=
      storeNew_keychain_ok hform (Prod.ext hstore hlast)
    rw [← Except.ok.inj hfirst]
    refine ⟨made, pair, hmade, hpair, haddress, fun seed path other hsame => ?_⟩
    have hform' : ({ options with seed, path } : Options).form = .keychain := hform
    have hfund' : ({ options with seed, path } : Options).skipsFunding = true ∨ funder = none := hfund
    obtain ⟨hresult, hfiles, hkeychains⟩ :=
      storeNew_again hform' (hpair.congr hsame.sameKeychains) hwrite hsame
    dsimp only
    rw [run_unfunded hfund' store (some keychain), runOn_map_fst, runOn_map_snd]
    refine ⟨fun hpath => ?_, hfiles, ?_, ?_⟩
    · rw [hresult.trans (newPair_map_const hpath _)]
      cases newPhrase seed other <;> rfl
    · rw [hkeychains.memory, hsame.memory]
    · rw [hkeychains.keyring, hsame.keyring]

/-- A generation that may use the keychain in memory succeeds if its entry there is free, where the store
can be written. -/
theorem run_memory_ok {secrets : String → Option Secret}
    (hfund : options.skipsFunding = true ∨ funder = none) (hkeeps : store.Keeps world secrets)
    (hshort : options.name.text.toList.length ≤ 250) (hreplace : world.replaceRefusal = none)
    {phrase : String} (hphrase : newPhrase options.seed world = .ok phrase)
    (hpath : ∀ index ∈ options.path, 0 ≤ index ∧ index < 2 ^ 31)
    (habsent : world.memory.lookup (entryOf options.name) = none) :
    ∃ result after, (run options store (some .memory) funder).runOn world = (.ok result, after) := by
  obtain ⟨pair, hpair⟩ := newPair_of_newPhrase hphrase hpath
  have hfree : HasFreeEntry (some .memory) options.name world :=
    ⟨.memory, rfl, congrArg Except.ok habsent, trivial⟩
  obtain ⟨secret, after, hstore⟩ := storeNew_succeeds hpair
    (hkeeps.isWritable options.name hshort hreplace) fun _ => hfree
  rw [run_unfunded hfund, runOn_map, hstore]
  exact ⟨_, after, rfl⟩

end Generate

/-- Entries of keychains are written once: every run leaves the entries that are there, a pair is stored
exactly where nothing is, its address is given exactly where a pair is, and a second generation of a
name into a keychain changes nothing and gives the address of the first pair, if its phrase can be
made. -/
theorem entries_written_once :
    (∀ (steps : List Step) (world : World), World.KeepsEntries world (afterSteps steps world)) ∧
    (∀ (keychain : Keychain) (entry : String) (pair : KeyPair) (world : World),
      let stored := (keychain.store entry pair).runOn world
      (stored.1 = .ok none ↔ keychain.reading world entry = .ok none ∧
        keychain.reading stored.2 entry = .ok (some pair.octets)) ∧
      (∀ address, stored.1 = .ok (some address) ↔
        ∃ other, keychain.HoldsPair world entry other ∧ other.address = address) ∧
      (stored.1 ≠ .ok none →
        stored.2.memory = world.memory ∧ stored.2.keyring = world.keyring)) ∧
    ∀ (options : Generate.Options) (store : Store) (keychain : Keychain) (funder : Option Funder)
      (world after : World) (first : Generate.Result),
      options.form = .keychain → (options.skipsFunding = true ∨ funder = none) →
      (Generate.run options store (some keychain) funder).runOn world = (.ok first, after) →
      ∃ made pair, Generate.newPair options world = .ok made ∧
        keychain.HoldsPair after (Generate.entryOf options.name) pair ∧
        pair.address = first.existingAddress.getD made.address ∧
        ∀ (seed : Option String) (path : Option Int) (other : World), World.SameStores after other →
          let second :=
            (Generate.run { options with seed, path } store (some keychain) funder).runOn other
          ((∀ index ∈ path, 0 ≤ index ∧ index < 2 ^ 31) →
            second.1 = (newPhrase seed other).map fun _ =>
              { first with existingAddress := some pair.address }) ∧
            (∀ place, second.2.files.get? place = after.files.get? place) ∧
            second.2.memory = after.memory ∧ second.2.keyring = after.keyring := by
  refine ⟨keepsEntries_afterSteps, fun keychain entry pair world => ⟨?_, ?_, fun h => ?_⟩, ?_⟩
  · exact keychain.store_eq_none_iff entry pair world
  · exact keychain.store_eq_some_iff entry pair world
  · have hsame := keychain.sameStores_store entry pair world h
    exact ⟨hsame.memory, hsame.keyring⟩
  · intro options store keychain funder world after first hform hfund h
    exact Generate.run_again hform hfund h

/-- Options for an identity in a keychain, with the seed that tests use. -/
def keychainOptions : Generate.Options :=
  ⟨⟨"a", by decide⟩, some testSeed, .keychain, none, false⟩

theorem newPhrase_testSeed (world : World) :
    newPhrase keychainOptions.seed world =
      .ok (Mnemonic.phraseOfEntropy (Text.Utf8.encode testSeed.toList)) := by
  have hlength : Mnemonic.entropyLengths.contains (Text.Utf8.encode testSeed.toList).length = true := by
    decide
  show phraseOfEntropy _ = _
  rw [phraseOfEntropy, if_pos hlength]

theorem run_keychainOptions : ∃ first after,
    (Generate.run keychainOptions ⟨⟨"", ["store"]⟩⟩ (some .memory) none).runOn .bare =
      (.ok first, after) :=
  Generate.run_memory_ok (.inr rfl) (.fresh Store.isFresh_bare fun _ => rfl) (by decide) rfl
    (newPhrase_testSeed .bare) (fun _ h => by cases h) rfl

/-- A generation into the keychain in memory, and the same again. -/
theorem entries_written_once_bare : ∃ first after pair,
    (Generate.run keychainOptions ⟨⟨"", ["store"]⟩⟩ (some .memory) none).runOn .bare =
      (.ok first, after) ∧
    ((Generate.run keychainOptions ⟨⟨"", ["store"]⟩⟩ (some .memory) none).runOn after).1 =
      .ok { first with existingAddress := some (KeyPair.address pair) } := by
  obtain ⟨first, after, hfirst⟩ := run_keychainOptions
  obtain ⟨made, pair, -, -, -, hagain⟩ := entries_written_once.2.2 _ _ _ _ _ _ _ rfl (.inr rfl) hfirst
  obtain ⟨hsecond, -⟩ := hagain keychainOptions.seed none after (.refl after)
  refine ⟨first, after, pair, hfirst, ?_⟩
  have hresult := hsecond fun _ h => by cases h
  rw [newPhrase_testSeed] at hresult
  exact hresult

/-- A second generation whose seed has no suitable length gives no address. -/
theorem not_reported_shortSeed : ∃ first after,
    (Generate.run keychainOptions ⟨⟨"", ["store"]⟩⟩ (some .memory) none).runOn .bare =
      (.ok first, after) ∧
    ((Generate.run { keychainOptions with seed := some "short" } ⟨⟨"", ["store"]⟩⟩ (some .memory)
      none).runOn after).1 = .error (.seedLength 5) := by
  obtain ⟨first, after, hfirst⟩ := run_keychainOptions
  refine ⟨first, after, hfirst, ?_⟩
  obtain ⟨made, pair, -, -, -, hagain⟩ := Generate.run_again rfl (.inr rfl) hfirst
  obtain ⟨hsecond, -⟩ := hagain (some "short") none after (.refl after)
  have hresult := hsecond fun _ h => by cases h
  have hlength : Mnemonic.entropyLengths.contains (Text.Utf8.encode "short".toList).length ≠ true := by
    decide
  have hphrase : newPhrase (some "short") after = .error (.seedLength 5) := by
    show phraseOfEntropy _ = _
    rw [phraseOfEntropy, if_neg hlength]
    rfl
  rw [hphrase] at hresult
  exact hresult

end NamedKeys
