import NamedKeys.Proofs.Faults
import NamedKeys.Proofs.Generate.Funding

/-!
# Generations that fail

A generation that fails before it has stored the identity leaves files and keychains as they were, up to
folders that it has made and up to the entry that it has filled when the file could not be written
(`leftIntact_of_storeNew_error`).  One that fails later fails as its funder does
(`raised_of_storeNew_ok`); there is no third case (`run_error_cases`).
-/

namespace NamedKeys.Generate

open NamedKeys.Action

/-- A generation fills an entry: it is one into a keychain in which the entry of the name is not there. -/
def Fills (options : Options) (keychain : Option Keychain) (world : World) : Prop :=
  options.form = .keychain ∧
    ∃ chosen ∈ keychain, chosen.reading world (entryOf options.name) = .ok none

/-- How a generation leaves files and keychains that fails before it has stored the identity. -/
inductive LeftIntact (options : Options) (keychain : Option Keychain) (world : World) :
    Failure → World → Prop
  /-- It has not come to the file, and nothing has changed. -/
  | unchanged {failure : Failure} {after : World} (hreported : failure.isReported = true)
      (hsame : World.SameStores world after) : LeftIntact options keychain world failure after
  /-- The file could not be written, and there was no entry to fill. -/
  | unwritten {fault : FileFault} {after : World} (hfills : ¬ Fills options keychain world)
      (hfolders : world.files.AddsFolders after.files) (hsame : World.SameKeychains world after) :
    LeftIntact options keychain world (.file fault) after
  /-- The file could not be written after the entry had been filled with the new pair. -/
  | filled {chosen : Keychain} {pair : KeyPair} {fault : FileFault} {after : World}
      (hform : options.form = .keychain) (hchosen : keychain = some chosen)
      (habsent : chosen.reading world (entryOf options.name) = .ok none)
      (hpair : newPair options world = .ok pair)
      (hfolders : world.files.AddsFolders after.files)
      (hentry : World.SameKeychains
        (chosen.putEntry world (entryOf options.name) pair.octets) after)
      (hholds : chosen.HoldsPair after (entryOf options.name) pair) :
    LeftIntact options keychain world (.file fault) after

variable {options : Options} {store : Store} {keychain : Option Keychain} {funder : Option Funder}
  {world after : World} {failure : Failure}

/-- A write that fails after an identity has been prepared leaves at most the entry. -/
theorem leftIntact_of_write_error {secret : Secret} {existing : Option String} {middle : World}
    {fault : FileFault} (hprepared : Prepared options keychain world (.ok (secret, existing)) middle)
    (hfolders : middle.files.AddsFolders after.files) (hsame : World.SameKeychains middle after) :
    LeftIntact options keychain world (.file fault) after := by
  have hmade : world.files.AddsFolders after.files := by
    rwa [hprepared.keeps.1.files] at hfolders
  cases hprepared with
  | phrase hform _ hquiet =>
    exact .unwritten (fun hfills => by simp [Fills, hform] at hfills) hmade
      (hquiet.sameKeychains.trans hsame)
  | secretKey hform _ hquiet =>
    exact .unwritten (fun hfills => by simp [Fills, hform] at hfills) hmade
      (hquiet.sameKeychains.trans hsame)
  | keychain hform hkeychain hpair hquiet hstored =>
    subst hkeychain
    cases hstored with
    | present hother haddress hquiet' =>
      refine .unwritten ?_ hmade ((hquiet.trans hquiet').sameKeychains.trans hsame)
      rintro ⟨-, chosen, hchosen, habsent⟩
      obtain rfl := Option.some.inj hchosen
      obtain ⟨octets, hread, -⟩ := hother
      rw [Keychain.reading_congr hquiet.sameKeychains, habsent] at hread
      cases hread
    | created habsent hquiet' =>
      obtain ⟨phrase, -, hderived⟩ := newPair_ok hpair
      obtain ⟨key, hkey, rfl⟩ := pairOfPhrase_ok hderived
      -- the entry was put into a world with the files and keychains of the first one
      have hbefore := (hquiet.trans hquiet').sameKeychains
      rw [Keychain.reading_congr hquiet.sameKeychains] at habsent
      have hread := habsent
      rw [← Keychain.reading_congr hbefore] at hread
      exact .filled hform rfl habsent hpair hmade
        ((Keychain.sameKeychains_putEntry _ hbefore _ _).trans hsame)
        ((Keychain.holdsPair_putEntry hkey hread).congr hsame)

/-- A generation that stores no identity leaves files and keychains as they were. -/
theorem leftIntact_of_storeNew_error
    (h : (storeNew options store keychain).runOn world = (.error failure, after)) :
    LeftIntact options keychain world failure after := by
  rw [storeNew_eq] at h
  rcases hprepare : (prepare options keychain).runOn world with ⟨other | ⟨secret, existing⟩, middle⟩
  · rw [runOn_bind_error hprepare] at h
    obtain ⟨hfailure, rfl⟩ := Prod.mk.inj h
    obtain rfl := Except.error.inj hfailure
    have hreported := failsIn_prepare options keychain world other (congrArg Prod.fst hprepare)
    cases prepared_of_run hprepare with
    | failed hsame => exact .unchanged hreported hsame
  · rw [runOn_bind_ok hprepare] at h
    rcases hwrite : (store.write options.name secret).runOn middle with ⟨other | ⟨⟩, last⟩
    · rw [runOn_bind_error hwrite] at h
      obtain ⟨hfailure, rfl⟩ := Prod.mk.inj h
      obtain rfl := Except.error.inj hfailure
      obtain ⟨⟨fault, rfl⟩, hsame, hfolders⟩ := Store.write_error hwrite
      exact leftIntact_of_write_error (prepared_of_run hprepare) hfolders.toAddsFolders hsame
    · rw [runOn_bind_ok hwrite] at h
      cases (Prod.mk.inj h).1

/-- A failure is one of the funder, which has been called. -/
def IsRaised (funder : Option Funder) (calls : List String) (failure : Failure) : Prop :=
  ∃ fund ∈ funder, ∃ address, calls = [address] ∧ (fund address).result = .error failure

/-- After the identity has been stored, a generation fails only as its funder does, and not with a
failure of the network. -/
theorem raised_of_storeNew_ok {stored : Secret × Option String} {middle : World}
    (hpath : ∀ index ∈ options.path, 0 ≤ index ∧ index < 2 ^ 31)
    (hstore : (storeNew options store keychain).runOn world = (.ok stored, middle))
    (h : (run options store keychain funder).runOn world = (.error failure, after)) :
    IsRaised funder (addressesFunded (run options store keychain) funder world) failure ∧
      failure.family ≠ .network := by
  obtain ⟨pair, hpair⟩ := exists_pair_of_storeNew hpath hstore
  obtain ⟨⟨last, -, hrun⟩, hcalls⟩ := run_of_storeNew_ok hstore hpair funder
  rw [h] at hrun
  obtain ⟨hfamily, fund, hcalled, hresult⟩ :=
    ((hasFunded_ending options.name stored pair (options.called funder)).escaped failure).1
      (Prod.mk.inj hrun).1.symm
  have hfund : fund ∈ funder := by
    unfold Options.called at hcalled
    split at hcalled
    · cases hcalled
    · exact hcalled
  rw [Option.mem_def.1 hcalled] at hcalls
  exact ⟨⟨fund, hfund, pair.address, hcalls, hresult⟩, hfamily⟩

/-- A generation that fails has left files and keychains as they were, or its funder has failed. -/
theorem run_error_cases (hpath : ∀ index ∈ options.path, 0 ≤ index ∧ index < 2 ^ 31)
    (h : (run options store keychain funder).runOn world = (.error failure, after)) :
    LeftIntact options keychain world failure after ∨
      IsRaised funder (addressesFunded (run options store keychain) funder world) failure ∧
        failure.family ≠ .network := by
  rcases hstore : (storeNew options store keychain).runOn world with ⟨other | stored, middle⟩
  · rw [(run_of_storeNew_error hstore funder).1] at h
    obtain ⟨hfailure, rfl⟩ := Prod.mk.inj h
    obtain rfl := Except.error.inj hfailure
    exact .inl (leftIntact_of_storeNew_error hstore)
  · exact .inr (raised_of_storeNew_ok hpath hstore h)

end NamedKeys.Generate
