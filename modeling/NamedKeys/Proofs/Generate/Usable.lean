import NamedKeys.Proofs.Derivation
import NamedKeys.Proofs.Generate.Steps
import NamedKeys.Proofs.Store.Keeps

/-!
# Identities stay usable

In every run on one store and one keychain, with failures at any point, every listed identity can be
read and gives a key pair at every path in range (`usable_afterSteps`).  The invariant is that every
secret that is kept is read from its text, and that the entry of every keychain secret that is kept
holds a pair (`Sound`): a generation fills the entry before it writes the file, and no later step
changes an entry that is there.
-/

namespace NamedKeys

open NamedKeys.Action

/-! ## Secrets that give a pair -/

/-- A secret that is read from its text gives a pair, if its entry holds one in case it has one. -/
theorem runOn_keyPairOfSecret_ok {secret : Secret} (hread : Secret.parse secret.text = .ok secret)
    {keychain : Keychain} {world : World}
    (hentry : ∀ entry, secret = .keychain entry → ∃ pair, keychain.HoldsPair world entry pair)
    {path : Option Int} (hpath : ∀ index ∈ path, 0 ≤ index ∧ index < 2 ^ 31) :
    ∃ pair, ((keyPairOfSecret secret path (some keychain)).runOn world).1 = .ok pair := by
  rw [runOn_keyPairOfSecret]
  cases secret with
  | seedPhrase phrase => exact pairOfSecret_of_parse hread (by rintro ⟨⟩) hpath world _
  | secretKey text => exact pairOfSecret_of_parse hread (by rintro ⟨⟩) hpath world _
  | keychain entry =>
    obtain ⟨pair, hpair⟩ := hentry entry rfl
    exact ⟨pair, Keychain.pairIn_eq_ok_iff.2 hpair⟩

/-! ## The invariant -/

/-- Steps on one store and one keychain whose reading is not refused. -/
def Step.IsOn (store : Store) (keychain : Keychain) : Step → Prop
  | .generate _ other chosen _ => other = store ∧ ∀ used ∈ chosen, used.user? = keychain.user?
  | .put other _ _ => other.user? = keychain.user?
  | .remove other _ => other = store
  | .outside _ _ readRefusal _ => readRefusal = none

/-- The secrets of a store can be used with a keychain. -/
structure Sound (store : Store) (keychain : Keychain) (world : World)
    (secrets : String → Option Secret) : Prop where
  keeps : store.Keeps world secrets
  readable : world.keyring.readRefusal = none
  filled : ∀ name entry, secrets name = some (.keychain entry) →
    ∃ pair, keychain.HoldsPair world entry pair

variable {store : Store} {keychain : Keychain} {world after : World}
  {secrets : String → Option Secret}

theorem Sound.of_keeps (h : Sound store keychain world secrets) (hfiles : World.SameFiles world after)
    (hentries : World.KeepsEntries world after) : Sound store keychain after secrets := by
  have hread : after.keyring.readRefusal = none := hfiles.readRefusal.trans h.readable
  refine ⟨h.keeps.congr hfiles.files hfiles.folder, hread, fun name entry hname => ?_⟩
  obtain ⟨pair, hpair⟩ := h.filled name entry hname
  exact ⟨pair, hpair.of_keepsEntries hentries hread⟩

/-- Writing what has been prepared keeps the invariant, whether it succeeds or fails. -/
theorem Sound.write (h : Sound store keychain world secrets) (name : IdentityName) {secret : Secret}
    (hread : Secret.parse secret.text = .ok secret)
    (hentry : ∀ entry, secret = .keychain entry → ∃ pair, keychain.HoldsPair world entry pair) :
    ∃ after, Sound store keychain ((store.write name secret).runOn world).2 after := by
  by_cases hok : name.text.toList.length ≤ 250 ∧ world.replaceRefusal = none
  · obtain ⟨files, log, hrun, hkeeps⟩ := Store.runOn_write h.keeps name hok.1 hread hok.2
    rw [hrun]
    refine ⟨_, hkeeps, h.readable, fun other entry hother => ?_⟩
    by_cases hname : other = name.text
    · rw [hname, Function.update_self] at hother
      exact hentry entry (Option.some.inj hother)
    · rw [Function.update_of_ne hname] at hother
      exact h.filled other entry hother
  · have hfails : world.replaceRefusal ≠ none ∨ 250 < name.text.toList.length := by
      by_cases hlength : name.text.toList.length ≤ 250
      · exact .inl fun hreplace => hok ⟨hlength, hreplace⟩
      · exact .inr (by omega)
    obtain ⟨failure, files, hrun, hkeeps⟩ := Store.runOn_write_error h.keeps name secret hfails
    rw [hrun]
    exact ⟨secrets, hkeeps, h.readable, h.filled⟩

theorem Sound.remove (h : Sound store keychain world secrets) (name : IdentityName) :
    ∃ after, Sound store keychain ((store.remove name).runOn world).2 after := by
  by_cases hshort : name.text.toList.length ≤ 250
  · cases hsecret : secrets name.text with
    | none =>
      rw [Store.runOn_remove_none h.keeps name hshort hsecret]
      exact ⟨secrets, h⟩
    | some secret =>
      obtain ⟨files, log, hrun, hkeeps⟩ := Store.runOn_remove h.keeps name hsecret
      rw [hrun]
      refine ⟨_, hkeeps, h.readable, fun other entry hother => ?_⟩
      by_cases hname : other = name.text
      · rw [hname, Function.update_self] at hother
        cases hother
      · rw [Function.update_of_ne hname] at hother
        exact h.filled other entry hother
  · obtain ⟨failure, hrun⟩ := Store.runOn_remove_of_long h.keeps name (by omega)
    rw [hrun]
    exact ⟨secrets, h⟩

/-- The entry of a secret that has been prepared holds a pair. -/
theorem Generate.Prepared.filled {options : Options} {chosen : Option Keychain} {secret : Secret}
    {existing : Option String} (h : Prepared options chosen world (.ok (secret, existing)) after)
    (hchosen : ∀ used ∈ chosen, used.user? = keychain.user?) {entry : String}
    (hsecret : secret = .keychain entry) : ∃ pair, keychain.HoldsPair after entry pair := by
  cases h with
  | phrase hform hphrase hsame => cases hsecret
  | secretKey hform hpair hsame => cases hsecret
  | keychain hform hkeychain hpair hsame hstored =>
    obtain ⟨phrase, -, hderived⟩ := newPair_ok hpair
    obtain ⟨key, hkey, rfl⟩ := pairOfPhrase_ok hderived
    obtain ⟨pair, hholds, -⟩ := hstored.holdsPair hkey
    obtain rfl := Secret.keychain.inj hsecret
    exact ⟨pair, hholds.of_user (hchosen _ hkeychain)⟩

theorem Sound.storeNew (h : Sound store keychain world secrets) (options : Generate.Options)
    {chosen : Option Keychain} (hchosen : ∀ used ∈ chosen, used.user? = keychain.user?) :
    ∃ after, Sound store keychain ((Generate.storeNew options store chosen).runOn world).2 after := by
  rw [Generate.storeNew_eq, runOn_bind]
  match hrun : (Generate.prepare options chosen).runOn world with
  | (.error failure, middle) =>
    have hprepared := Generate.prepared_of_run hrun
    exact ⟨secrets, h.of_keeps hprepared.keeps.1 hprepared.keeps.2⟩
  | (.ok (secret, existing), middle) =>
    have hprepared := Generate.prepared_of_run hrun
    have hmiddle := h.of_keeps hprepared.keeps.1 hprepared.keeps.2
    obtain ⟨after, hafter⟩ := hmiddle.write options.name hprepared.readable
      fun entry hentry => hprepared.filled hchosen hentry
    refine ⟨after, ?_⟩
    dsimp only
    rw [runOn_bind]
    match hwrite : (store.write options.name secret).runOn middle with
    | (.ok (), last) =>
      rw [hwrite] at hafter
      exact hafter
    | (.error failure, last) =>
      rw [hwrite] at hafter
      exact hafter

/-- Every step keeps the invariant. -/
theorem Sound.step (h : Sound store keychain world secrets) {step : Step}
    (hstep : step.IsOn store keychain) : ∃ after, Sound store keychain (step.after world) after := by
  cases step with
  | generate options other chosen funder =>
    obtain ⟨rfl, hchosen⟩ := hstep
    obtain ⟨after, hafter⟩ := h.storeNew options hchosen
    have hsame := Generate.sameStores_run options other chosen funder world
    exact ⟨after, hafter.of_keeps hsame.sameFiles hsame.keepsEntries⟩
  | put other entry pair =>
    have hstored := other.stored entry pair world
    exact ⟨secrets, h.of_keeps hstored.sameFiles hstored.keepsEntries⟩
  | remove other name =>
    obtain rfl : other = store := hstep
    exact h.remove name
  | outside randomness replaceRefusal readRefusal writeRefusal =>
    obtain rfl : readRefusal = none := hstep
    refine ⟨secrets, h.keeps.congr rfl rfl, rfl, fun name entry hname => ?_⟩
    obtain ⟨pair, hpair⟩ := h.filled name entry hname
    exact ⟨pair, hpair.of_keepsEntries ⟨fun _ _ h => h, fun _ _ h => h⟩ rfl⟩

theorem Sound.steps (h : Sound store keychain world secrets) {steps : List Step}
    (hsteps : ∀ step ∈ steps, step.IsOn store keychain) :
    ∃ after, Sound store keychain (afterSteps steps world) after := by
  induction steps generalizing world secrets with
  | nil => exact ⟨secrets, h⟩
  | cons step steps ih =>
    obtain ⟨after, hafter⟩ := h.step (hsteps step List.mem_cons_self)
    exact ih hafter fun other hother => hsteps other (List.mem_cons_of_mem _ hother)

/-! ## Usability -/

/-- An identity can be read, its entry holds a pair if it has one, and it gives a pair at every path in
range. -/
def IsUsable (store : Store) (keychain : Keychain) (world : World) (name : IdentityName) : Prop :=
  ∃ secret, (store.read name).runOn world = (.ok secret, world) ∧
    (∀ entry, secret = .keychain entry → ∃ pair, keychain.HoldsPair world entry pair) ∧
    ∀ path : Option Int, (∀ index ∈ path, 0 ≤ index ∧ index < 2 ^ 31) →
      ∃ pair, ((keyPairOfSecret secret path (some keychain)).runOn world).1 = .ok pair

/-- The names that are listed are names of identities, which can be used. -/
theorem Sound.usable (h : Sound store keychain world secrets) :
    ∃ names, store.list.runOn world = (.ok names, world) ∧
      ∀ text ∈ names, ∃ name, IdentityName.ofText text = .ok name ∧
        IsUsable store keychain world name := by
  obtain ⟨names, hlist, -, hmem⟩ := Store.runOn_list h.keeps
  refine ⟨names, hlist, fun text htext => ?_⟩
  obtain ⟨secret, hsecret⟩ := Option.isSome_iff_exists.1 ((hmem text).1 htext)
  have hstored := h.keeps.stored hsecret
  have hentry : ∀ entry, secret = .keychain entry → ∃ pair, keychain.HoldsPair world entry pair := by
    rintro entry rfl
    exact h.filled text entry hsecret
  refine ⟨⟨text, hstored.form⟩, dif_pos hstored.form, secret, ?_, hentry, fun path hpath => ?_⟩
  · rw [Store.runOn_read h.keeps ⟨text, hstored.form⟩ hstored.short]
    dsimp only
    rw [hsecret]
  · exact runOn_keyPairOfSecret_ok hstored.readable hentry hpath

/-- After any steps on a store that was empty and a keychain with any entries, every identity that is
listed can be used. -/
theorem usable_afterSteps (hempty : store.HasEmptyRoot world ∨ store.IsFresh world)
    (hread : world.keyring.readRefusal = none) {steps : List Step}
    (hsteps : ∀ step ∈ steps, step.IsOn store keychain) :
    ∃ names, store.list.runOn (afterSteps steps world) = (.ok names, afterSteps steps world) ∧
      ∀ text ∈ names, ∃ name, IdentityName.ofText text = .ok name ∧
        IsUsable store keychain (afterSteps steps world) name := by
  have hfresh : store.IsFresh world := hempty.elim (fun h => h.isFresh) id
  have hsound : Sound store keychain world fun _ => none :=
    ⟨.fresh hfresh fun _ => rfl, hread, fun _ _ h => by cases h⟩
  obtain ⟨secrets, hafter⟩ := hsound.steps hsteps
  exact hafter.usable

/-- A generation into the keychain in memory, and one that draws no octets and fails. -/
theorem usable_afterSteps_bare :
    let store : Store := ⟨⟨"", ["store"]⟩⟩
    let name : IdentityName := ⟨"a", by decide⟩
    let world := afterSteps [
      .generate ⟨name, some testSeed, .keychain, none, true⟩ store (some .memory) none,
      .generate ⟨name, none, .phrase, none, true⟩ store none none] .bare
    ∃ names, store.list.runOn world = (.ok names, world) ∧
      ∀ text ∈ names, ∃ name, IdentityName.ofText text = .ok name ∧
        IsUsable store .memory world name := by
  refine usable_afterSteps (.inr Store.isFresh_bare) rfl fun step hstep => ?_
  rcases List.mem_cons.1 hstep with rfl | hstep
  · exact ⟨rfl, fun used hused => by rw [← Option.some.inj hused]⟩
  · obtain rfl := List.mem_singleton.1 hstep
    exact ⟨rfl, fun used hused => by cases hused⟩

end NamedKeys
