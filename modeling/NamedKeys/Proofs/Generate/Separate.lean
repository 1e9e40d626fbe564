import NamedKeys.Proofs.Generate.Steps
import NamedKeys.Proofs.Generate.Stored
import NamedKeys.Proofs.Keychain.Within

/-!
# Names and their entries

Which entry of a keychain belongs to a name, and that a generation into a keychain uses no other.
The entry is named after the name without the line feed that may end it, so that two names share an
entry exactly if they are equal but for that line feed (`entryOf_eq_iff`).  A generation asks for and
changes the entry of its name alone (`usesOnly_run`), and the addresses that it gives and funds are
those of the pair in this entry:

    own_entry_only
-/

namespace NamedKeys

open NamedKeys.Action

/-! ## The entry of a name -/

theorem bodyOf_eq_self_iff (name : IdentityName) :
    bodyOf name.text.toList = name.text.toList ↔ name.text.toList.getLast? ≠ some '\n' := by
  constructor
  · intro hbody
    rw [← hbody]
    exact (isNameForm_iff.1 name.hasForm).getLast?
  · intro hlast
    exact if_neg hlast

theorem bodyOf_concat {name other : IdentityName} (h : name.text.toList = other.text.toList ++ ['\n']) :
    bodyOf name.text.toList = bodyOf other.text.toList := by
  have hbody : bodyOf name.text.toList = other.text.toList := by
    rw [bodyOf, h, if_pos List.getLast?_concat, List.dropLast_concat]
  have hother : IsNameBody other.text.toList := by
    rw [← hbody]
    exact isNameForm_iff.1 name.hasForm
  rw [hbody, hother.bodyOf_eq]

/-- Two names have one body if they are equal but for a line feed at the end of one. -/
theorem bodyOf_eq_iff (name other : IdentityName) :
    bodyOf name.text.toList = bodyOf other.text.toList ↔
      name.text = other.text ∨ name.text = other.text ++ "\n" ∨ other.text = name.text ++ "\n" := by
  have hconcat : ∀ s t : String, s = t ++ "\n" ↔ s.toList = t.toList ++ ['\n'] := by
    intro s t
    rw [← String.toList_inj, String.toList_append]
    rfl
  rw [hconcat, hconcat, ← String.toList_inj]
  constructor
  · intro hbody
    rcases bodyOf_cases name.text.toList with hname | hname <;>
      rcases bodyOf_cases other.text.toList with hother | hother
    · exact .inl (by rw [hname, hother, hbody])
    · exact .inr (.inr (by rw [hother, ← hbody, ← hname]))
    · exact .inr (.inl (by rw [hname, hbody, ← hother]))
    · exact .inl (by rw [hname, hother, hbody])
  · rintro (h | h | h)
    · rw [h]
    · exact bodyOf_concat h
    · exact (bodyOf_concat h).symm

theorem Secret.entryName_inj {name other : String} :
    entryName name = entryName other ↔ name = other := by
  rw [← String.toList_inj, toList_entryName, toList_entryName, List.append_cancel_left_eq,
    String.toList_inj]

namespace Generate

/-- Two names share an entry exactly if they are equal but for a line feed at the end of one. -/
theorem entryOf_eq_iff (name other : IdentityName) :
    entryOf name = entryOf other ↔
      name.text = other.text ∨ name.text = other.text ++ "\n" ∨ other.text = name.text ++ "\n" := by
  rw [entryOf, entryOf, Secret.entryName_inj, String.ofList_inj, bodyOf_eq_iff]

/-- The entry of a name is named after the whole name exactly if no line feed ends the name. -/
theorem entryOf_eq_entryName_iff (name : IdentityName) :
    entryOf name = Secret.entryName name.text ↔ name.text.toList.getLast? ≠ some '\n' := by
  rw [entryOf, Secret.entryName_inj, ← bodyOf_eq_self_iff, ← String.toList_inj, String.toList_ofList]

end Generate

/-! ## Using one entry -/

/-- Between two worlds keychains are asked for one entry only, and no other has changed. -/
structure World.UsesOnly (entry : String) (world after : World) : Prop where
  asked : ∃ entries, after.asked = world.asked ++ entries ∧ ∀ other ∈ entries, other = entry
  memory : ∀ other ≠ entry, after.memory.lookup other = world.memory.lookup other
  passwords : ∀ other ≠ entry, ∀ user,
    after.keyring.passwords.lookup (other, user) = world.keyring.passwords.lookup (other, user)

theorem World.usesOnly_iff {entry : String} {world after : World} :
    UsesOnly entry world after ↔ StaysWithin (· = entry) world after :=
  ⟨fun h => ⟨h.asked, h.memory, h.passwords⟩, fun h => ⟨h.asked, h.memory, h.passwords⟩⟩

namespace Generate

variable {entry : String} {options : Options} {store : Store} {keychain : Option Keychain}
  {funder : Option Funder} {world after : World}

/-- The secret of a generation is the entry of its name, if it is a keychain secret. -/
theorem returns_storeNew (options : Options) (store : Store) (keychain : Option Keychain) :
    Returns (fun stored => ∀ entry, stored.1 = .keychain entry → entryOf options.name = entry)
      (storeNew options store keychain) := by
  intro world after stored hrun entry hentry
  obtain ⟨middle, hprepared, -⟩ := storeNew_ok hrun
  cases hprepared with
  | phrase => cases hentry
  | secretKey => cases hentry
  | keychain => exact Secret.keychain.inj hentry

/-- A generation keeps every relation that looks at the entry of its name at most. -/
theorem keeps_run {R : World → World → Prop} [World.IsStoreFrame R] [World.IsRequestFrame R]
    (options : Options) (store : Store) (keychain : Option Keychain) (funder : Option Funder)
    (hask : World.AllowsAsking R (entryOf options.name))
    (hfill : Keychain.AllowsFilling R (entryOf options.name)) :
    Keeps R (run options store keychain funder) := by
  rw [run_eq]
  refine (keeps_storeNew options store keychain hask hfill).bind_returns
    (returns_storeNew options store keychain) fun stored hstored => ?_
  exact keeps_announce options keychain funder stored fun entry hentry => hstored entry hentry ▸ hask

/-- However it ends, a generation uses the entry of its name only. -/
theorem usesOnly_run (options : Options) (store : Store) (keychain : Option Keychain)
    (funder : Option Funder) (world : World) :
    World.UsesOnly (entryOf options.name) world
      ((run options store keychain funder).runOn world).2 := by
  have hkeeps : Keeps (World.StaysWithin (· = entryOf options.name))
      (run options store keychain funder) :=
    keeps_run options store keychain funder (World.StaysWithin.allowsAsking rfl)
      (Keychain.allowsFilling_staysWithin rfl)
  exact World.usesOnly_iff.2 (hkeeps world)

/-! ## The addresses of a generation -/

/-- The pair of a keychain secret is the one that its entry holds. -/
theorem holdsPair_of_keyPairOfSecret {path : Option Int} {pair : KeyPair}
    (h : ((keyPairOfSecret (.keychain entry) path keychain).runOn world).1 = .ok pair) :
    ∃ chosen ∈ keychain, chosen.HoldsPair world entry pair := by
  rw [runOn_keyPairOfSecret] at h
  cases keychain with
  | none => cases h
  | some chosen => exact ⟨chosen, rfl, Keychain.pairIn_eq_ok_iff.1 h⟩

/-- The address that is funded is that of the pair in the entry. -/
theorem announce_keychain_ok {existing : Option String} {result : Result}
    (h : (announce options keychain funder (.keychain entry, existing)).runOn world =
      (.ok result, after)) :
    result.secret = .keychain entry ∧ result.existingAddress = existing ∧
      ∀ address, result.address = some address →
        ∃ chosen ∈ keychain, ∃ pair, chosen.HoldsPair world entry pair ∧ pair.address = address := by
  unfold announce at h
  split at h
  · obtain ⟨hresult, -⟩ := Prod.mk.inj h
    rw [← Except.ok.inj hresult]
    refine ⟨rfl, rfl, fun address haddress => ?_⟩
    cases haddress
  · obtain ⟨pair, middle, hpair, hrest⟩ := exists_of_runOn_bind h
    obtain ⟨failure, last, -, hpure⟩ := exists_of_runOn_bind hrest
    obtain ⟨hresult, -⟩ := Prod.mk.inj hpure
    obtain ⟨chosen, hchosen, hholds⟩ := holdsPair_of_keyPairOfSecret (congrArg Prod.fst hpair)
    rw [← Except.ok.inj hresult]
    refine ⟨rfl, rfl, fun address haddress => ?_⟩
    exact ⟨chosen, hchosen, pair, hholds, Option.some.inj haddress⟩

theorem tryFund_congr {fund other : Funder} {address : String} (h : other address = fund address) :
    tryFund other address = tryFund fund address := by
  unfold tryFund Action.fund
  rw [h]

/-- Of a funder only what it does to the address of the pair in the entry counts. -/
theorem announce_congr {existing : Option String} {fund other : Funder}
    (h : ∀ chosen ∈ keychain, ∀ pair, chosen.HoldsPair world entry pair →
      other pair.address = fund pair.address) :
    (announce options keychain (some other) (.keychain entry, existing)).runOn world =
      (announce options keychain (some fund) (.keychain entry, existing)).runOn world := by
  unfold announce
  cases options.skipsFunding with
  | true => rfl
  | false =>
    match hpair : (keyPairOfSecret (.keychain entry) options.path keychain).runOn world with
    | (.error failure, middle) =>
      simp only [Bool.false_eq_true, if_false, runOn_bind_error hpair]
    | (.ok pair, middle) =>
      obtain ⟨chosen, hchosen, hholds⟩ :=
        holdsPair_of_keyPairOfSecret (congrArg Prod.fst hpair)
      simp only [Bool.false_eq_true, if_false, runOn_bind_ok hpair,
        tryFund_congr (h chosen hchosen pair hholds)]

/-- The addresses that a generation into a keychain gives are those of the pair in the entry of its
name: before it, if the pair was there, and after it. -/
theorem run_keychain_ok (hform : options.form = .keychain) {result : Result}
    (h : (run options store keychain funder).runOn world = (.ok result, after)) :
    result.secret = .keychain (entryOf options.name) ∧
      (∀ address, result.existingAddress = some address → ∃ chosen ∈ keychain, ∃ pair,
        chosen.HoldsPair world (entryOf options.name) pair ∧ pair.address = address) ∧
      ∀ address, result.address = some address → ∃ chosen ∈ keychain, ∃ pair,
        chosen.HoldsPair after (entryOf options.name) pair ∧ pair.address = address := by
  have hlast := sameStores_run options store keychain funder world
  rw [h] at hlast
  rw [run_eq] at h
  obtain ⟨⟨secret, existing⟩, middle, hstore, hannounce⟩ := exists_of_runOn_bind h
  rw [hstore] at hlast
  obtain ⟨start, hprepared, -⟩ := storeNew_ok hstore
  obtain ⟨rfl, chosen, made, before, hkeychain, -, hsame, hstored⟩ := hprepared.keychain_ok hform
  obtain ⟨hsecret, hexisting, haddress⟩ := announce_keychain_ok hannounce
  refine ⟨hsecret, fun address hgiven => ?_, fun address hgiven => ?_⟩
  · rw [hexisting] at hgiven
    subst hgiven
    cases hstored with
    | present hother hheld _ =>
      exact ⟨chosen, hkeychain, _, hother.congr hsame.sameKeychains.symm, hheld⟩
  · obtain ⟨used, hused, pair, hholds, hpair⟩ := haddress address hgiven
    exact ⟨used, hused, pair, hholds.congr hlast.sameKeychains, hpair⟩

/-- A funder that does the same to the address of the pair in the entry makes no difference. -/
theorem run_keychain_congr (hform : options.form = .keychain) {fund other : Funder}
    (h : ∀ chosen ∈ keychain, ∀ pair, chosen.HoldsPair
      ((run options store keychain (some fund)).runOn world).2 (entryOf options.name) pair →
        other pair.address = fund pair.address) :
    (run options store keychain (some other)).runOn world =
      (run options store keychain (some fund)).runOn world := by
  have hlast := sameStores_run options store keychain (some fund) world
  match hstore : (storeNew options store keychain).runOn world with
  | (.error failure, after) => rw [run_eq, run_eq, runOn_bind_error hstore, runOn_bind_error hstore]
  | (.ok (secret, existing), after) =>
    rw [hstore] at hlast
    obtain ⟨start, hprepared, -⟩ := storeNew_ok hstore
    obtain ⟨rfl, -⟩ := hprepared.keychain_ok hform
    rw [run_eq, run_eq, runOn_bind_ok hstore, runOn_bind_ok hstore]
    refine announce_congr fun chosen hchosen pair hholds => ?_
    exact h chosen hchosen pair (hholds.congr hlast.sameKeychains)

end Generate

/-- What a generation of a name into a keychain uses, gives and funds: nothing but the entry of the
name, which it shares with the names that are equal to it but for a line feed at the end. -/
theorem own_entry_only {options : Generate.Options} (hform : options.form = .keychain)
    (store : Store) (keychain : Option Keychain) (funder : Option Funder) (world : World) :
    let entry := Generate.entryOf options.name
    let run := (Generate.run options store keychain funder).runOn world
    (entry = Secret.entryName options.name.text ↔ options.name.text.toList.getLast? ≠ some '\n') ∧
    (∀ other : IdentityName, Generate.entryOf other = entry ↔ other.text = options.name.text ∨
      other.text = options.name.text ++ "\n" ∨ options.name.text = other.text ++ "\n") ∧
    World.UsesOnly entry world run.2 ∧
    (∀ result, run.1 = .ok result → result.secret = .keychain entry ∧
      (∀ address, result.existingAddress = some address →
        ∃ chosen ∈ keychain, ∃ pair, chosen.HoldsPair world entry pair ∧ pair.address = address) ∧
      ∀ address, result.address = some address →
        ∃ chosen ∈ keychain, ∃ pair, chosen.HoldsPair run.2 entry pair ∧ pair.address = address) ∧
    ∀ fund other : Funder, funder = some fund →
      (∀ chosen ∈ keychain, ∀ pair, chosen.HoldsPair run.2 entry pair →
        other pair.address = fund pair.address) →
      (Generate.run options store keychain (some other)).runOn world = run := by
  intro entry run
  refine ⟨Generate.entryOf_eq_entryName_iff options.name, ?_, ?_, ?_, ?_⟩
  · intro other
    exact Generate.entryOf_eq_iff other options.name
  · exact Generate.usesOnly_run options store keychain funder world
  · intro result hresult
    exact Generate.run_keychain_ok hform (Prod.ext hresult rfl)
  · rintro fund other rfl hagree
    exact Generate.run_keychain_congr hform hagree

/-- Options for a name with a line feed at its end. -/
def feedOptions : Generate.Options :=
  ⟨⟨"a\n", by decide⟩, some testSeed, .keychain, none, true⟩

/-- The entry of such a name is that of the name without the line feed, and not that of another. -/
theorem own_entry_only_feed :
    Generate.entryOf feedOptions.name ≠ Secret.entryName feedOptions.name.text ∧
      Generate.entryOf ⟨"a", by decide⟩ = Generate.entryOf feedOptions.name ∧
      ((Generate.run feedOptions ⟨⟨"", ["store"]⟩⟩ (some .memory) none).runOn
        .bare).2.memory.lookup (Generate.entryOf ⟨"b", by decide⟩) = none := by
  have hform : feedOptions.form = .keychain := rfl
  obtain ⟨hname, hshared, huses, -⟩ :=
    own_entry_only hform ⟨⟨"", ["store"]⟩⟩ (some .memory) none .bare
  have hother : ¬ ("b" = "a\n" ∨ "b" = "a\n" ++ "\n" ∨ "a\n" = "b" ++ "\n") := by decide
  refine ⟨fun h => hname.1 h (by decide), (hshared ⟨"a", by decide⟩).2 (.inr (.inr rfl)), ?_⟩
  exact huses.memory _ fun h => hother ((hshared ⟨"b", by decide⟩).1 h)

end NamedKeys
