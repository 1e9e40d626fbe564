import NamedKeys.Proofs.Generate.Prepare

/-!
# Runs of the program

A step is a generation, a pair put into an entry of a keychain, a removal, or what happens outside:
other random octets to come, and other refusals of the file system and the keyring.  In every run, of
any length, with any failures and any stores and keychains, an entry that is there stays as it is
(`keepsEntries_afterSteps`).
-/

namespace NamedKeys

open NamedKeys.Action

namespace Generate

theorem keeps_tryFund {R : World → World → Prop} [World.IsRequestFrame R] (funder : Funder)
    (address : String) : Keeps R (tryFund funder address) := by
  refine (keeps_fund funder address).attempt.bind fun result => ?_
  split
  · exact keeps_pure _
  · split
    · exact (keeps_log _ _).bind fun _ => keeps_pure _
    · exact keeps_throw _

/-- What a generation does after it has stored the identity. -/
def announce (options : Options) (keychain : Option Keychain) (funder : Option Funder)
    (stored : Secret × Option String) : Action Result := do
  match if options.skipsFunding then none else funder with
  | none => return ⟨options.name, stored.1, none, false, stored.2, none⟩
  | some funder =>
    let address := (← keyPairOfSecret stored.1 options.path keychain).address
    let fundingFailure ← tryFund funder address
    return ⟨options.name, stored.1, some address, fundingFailure.isNone, stored.2, fundingFailure⟩

theorem run_eq (options : Options) (store : Store) (keychain : Option Keychain)
    (funder : Option Funder) :
    run options store keychain funder =
      storeNew options store keychain >>= announce options keychain funder := rfl

theorem keeps_announce {R : World → World → Prop} [World.IsRequestFrame R] (options : Options)
    (keychain : Option Keychain) (funder : Option Funder) (stored : Secret × Option String)
    (hask : ∀ entry, stored.1 = .keychain entry → World.AllowsAsking R entry) :
    Keeps R (announce options keychain funder stored) := by
  unfold announce
  split
  · exact keeps_pure _
  · refine (keeps_keyPairOfSecret _ _ _ hask).bind fun pair => ?_
    exact (keeps_tryFund _ _).bind fun _ => keeps_pure _

/-- Files and keychains are at the end as they are when the identity has been stored. -/
theorem sameStores_run (options : Options) (store : Store) (keychain : Option Keychain)
    (funder : Option Funder) (world : World) :
    World.SameStores ((storeNew options store keychain).runOn world).2
      ((run options store keychain funder).runOn world).2 := by
  rw [run_eq, runOn_bind]
  match (storeNew options store keychain).runOn world with
  | (.ok stored, after) =>
    exact keeps_announce options keychain funder stored (fun entry _ => .allowsAsking entry) after
  | (.error failure, after) => exact World.SameStores.refl after

theorem keepsEntries_storeNew (options : Options) (store : Store) (keychain : Option Keychain)
    (world : World) :
    World.KeepsEntries world ((storeNew options store keychain).runOn world).2 := by
  rw [storeNew_eq, runOn_bind]
  match hrun : (prepare options keychain).runOn world with
  | (.error failure, after) => exact (prepared_of_run hrun).keeps.2
  | (.ok (secret, existing), middle) =>
    have hwrite : Keeps World.SameKeychains (store.write options.name secret >>= fun _ =>
        pure (secret, existing)) :=
      (store.keeps_write options.name secret).bind fun _ => keeps_pure _
    exact (prepared_of_run hrun).keeps.2.trans (hwrite middle).keepsEntries

theorem keepsEntries_run (options : Options) (store : Store) (keychain : Option Keychain)
    (funder : Option Funder) (world : World) :
    World.KeepsEntries world ((run options store keychain funder).runOn world).2 :=
  (keepsEntries_storeNew options store keychain world).trans
    (sameStores_run options store keychain funder world).keepsEntries

end Generate

/-! ## Steps -/

/-- A step of the program, or of what is around it. -/
inductive Step where
  | generate (options : Generate.Options) (store : Store) (keychain : Option Keychain)
      (funder : Option Funder)
  | put (keychain : Keychain) (entry : String) (pair : KeyPair)
  | remove (store : Store) (name : IdentityName)
  | outside (randomness : List (List UInt8)) (replaceRefusal readRefusal writeRefusal : Option String)

/-- The world after a step, whether it fails or not. -/
def Step.after : Step → World → World
  | generate options store keychain funder, world =>
    ((Generate.run options store keychain funder).runOn world).2
  | put keychain entry pair, world => ((keychain.store entry pair).runOn world).2
  | remove store name, world => ((store.remove name).runOn world).2
  | outside randomness replaceRefusal readRefusal writeRefusal, world =>
    { world with
      randomness, replaceRefusal
      keyring := { world.keyring with readRefusal, writeRefusal } }

def afterSteps (steps : List Step) (world : World) : World :=
  steps.foldl (fun world step => step.after world) world

theorem Step.keepsEntries (step : Step) (world : World) : World.KeepsEntries world (step.after world) := by
  cases step with
  | generate options store keychain funder =>
    exact Generate.keepsEntries_run options store keychain funder world
  | put keychain entry pair => exact (keychain.stored entry pair world).keepsEntries
  | remove store name => exact World.SameKeychains.keepsEntries (store.keeps_remove name world)
  | outside randomness replaceRefusal readRefusal writeRefusal =>
    exact ⟨fun _ _ h => h, fun _ _ h => h⟩

/-- No run changes an entry that is there. -/
theorem keepsEntries_afterSteps (steps : List Step) (world : World) :
    World.KeepsEntries world (afterSteps steps world) := by
  induction steps generalizing world with
  | nil => exact .refl world
  | cons step steps ih => exact (step.keepsEntries world).trans (ih _)

end NamedKeys
