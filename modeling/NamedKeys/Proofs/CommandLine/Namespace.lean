import NamedKeys.Proofs.CommandLine.Intact
import NamedKeys.Proofs.Generate.Separate

/-!
# Keychains are used within the namespace of the program

An entry for which a keychain is asked is that of a name, in a generation, or the one that a file names,
which is read as a keychain secret only if it is the name of an entry of the program's own
(`Store.returns_read`).  So whatever is in the files and the environment, a run of the program and a
generation, however they end, use no other entry:

    uses_own_entries
-/

namespace NamedKeys

open NamedKeys.Action

/-- The entry of a name is one of the program's own. -/
theorem Generate.isOwnEntry_entryOf (name : IdentityName) : Secret.IsOwnEntry (entryOf name) := by
  refine ⟨String.ofList (bodyOf name.text.toList), ?_, rfl⟩
  rw [String.toList_ofList]
  exact isNameForm_iff.1 name.hasForm

section Keeps

/- A relation that looks at no entries but those of the program's own. -/
variable {R : World → World → Prop} [World.IsStoreFrame R] [World.IsRequestFrame R]
  (hask : ∀ entry, Secret.IsOwnEntry entry → World.AllowsAsking R entry)
  (hfill : ∀ entry, Secret.IsOwnEntry entry → Keychain.AllowsFilling R entry)

include hask hfill

theorem Generate.Request.keeps_run (request : Request) (store : Store) (keychain : Option Keychain)
    (funder : Option Funder) : Keeps R (request.run store keychain funder) :=
  (keeps_ofExcept _).bind fun options => Generate.keeps_run options store keychain funder
    (hask _ (isOwnEntry_entryOf options.name)) (hfill _ (isOwnEntry_entryOf options.name))

namespace CommandLine

theorem keeps_generate (general : General) (store : Store) (reply : Reply)
    (request : Generate.Request) (arguments : Arguments) :
    Keeps R (generate general store reply request arguments) := by
  refine (keeps_ofExcept _).bind fun options => ?_
  have hrun : ∀ (keychain : Option Keychain) (funder : Option Funder) (g : Generate.Result → String),
      Keeps R (Generate.run options store keychain funder >>= fun result => pure (g result)) :=
    fun keychain funder g => (Generate.keeps_run options store keychain funder
      (hask _ (Generate.isOwnEntry_entryOf options.name))
      (hfill _ (Generate.isOwnEntry_entryOf options.name))).bind fun _ => keeps_pure _
  cases request.noFund <;> cases request.inKeychain <;>
    simp only [Bool.false_eq_true, if_true, if_false, pure_bind, bind_map_left]
  · exact (keeps_chosenNetwork arguments).bind fun network => hrun none _ _
  · exact (keeps_chosenNetwork arguments).bind fun network => (keeps_openKeychain general).bind
      fun chosen => hrun (some chosen) _ _
  · exact hrun none none _
  · exact (keeps_openKeychain general).bind fun chosen => hrun (some chosen) none _

theorem Task.keeps_run (general : General) (store : Store) (reply : Reply) (task : Task) :
    Keeps R (task.run general store reply) := by
  cases task with
  | help command => exact keeps_pure _
  | generate name path arguments => exact keeps_generate hask hfill general store reply _ arguments
  | address name path => exact keeps_of_subject? hask rfl general store reply
  | «show» name path => exact keeps_of_subject? hask rfl general store reply
  | list => exact store.keeps_list.bind fun _ => keeps_pure _
  | remove name => exact (World.IsStoreFrame.remove store name).bind fun _ => keeps_pure _
  | fund name path arguments => exact keeps_of_subject? hask rfl general store reply

end CommandLine

end Keeps

/-- A run of the program uses its own entries only: its keychain in memory is a new one, and is gone at
the end. -/
theorem CommandLine.staysWithin_run (words : List String) (reply : Reply) (world : World) :
    World.StaysWithin Secret.IsOwnEntry world (run words reply world).2 := by
  obtain ⟨last, log, hends, hworld⟩ := ends_run words reply world
  have hkept : World.StaysWithin Secret.IsOwnEntry { world with memory := [] } last :=
    hends.keeps fun general _ _ store task _ _ => Task.keeps_run
      (fun _ => World.StaysWithin.allowsAsking) (fun _ => Keychain.allowsFilling_staysWithin)
      general store reply task
  rw [hworld]
  exact ⟨hkept.asked, fun _ _ => rfl, hkept.passwords⟩

/-- For whatever entry a keychain is asked, to read it or to write it, in a run of the program on any
words, files and environment and in any generation: it is one of the program's own.  No other entry
changes. -/
theorem uses_own_entries :
    (∀ (words : List String) (reply : Reply) (world : World),
      World.StaysWithin Secret.IsOwnEntry world (CommandLine.run words reply world).2) ∧
    ∀ (request : Generate.Request) (store : Store) (keychain : Option Keychain)
      (funder : Option Funder) (world : World),
      World.StaysWithin Secret.IsOwnEntry world
        ((request.run store keychain funder).runOn world).2 := by
  refine ⟨CommandLine.staysWithin_run, fun request store keychain funder world => ?_⟩
  exact Generate.Request.keeps_run (fun _ => World.StaysWithin.allowsAsking)
    (fun _ => Keychain.allowsFilling_staysWithin) request store keychain funder world

end NamedKeys
