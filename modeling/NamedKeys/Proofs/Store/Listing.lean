import NamedKeys.Proofs.Store.Keeps
import NamedKeys.Proofs.Store.Malformed

/-!
# Listing, reading and removing in any file tree

The names that are listed are those of all entries of the folder with the name of an identity file, in
order and each once.  Reading and removing find an identity where a file stands.  So the three agree about
a name, whatever else there is in the tree, unless a folder stands in the place of its file:

    no folder    the name is listed ↔ it is found to read ↔ it is found to remove
    a folder     the name is listed, and is found neither to read nor to remove

This is `listing_agrees`; if the way to the folder of the store is refused, then it is to all three.
-/

namespace NamedKeys.Store

variable {store : Store} {name : IdentityName} {world : World}

/-! ## Finding an identity -/

/-- An answer other than that there is no identity of a name. -/
def Finds {α : Type} (name : IdentityName) (result : Except Failure α) : Prop :=
  result ≠ .error (.identityNotFound name.text)

section

variable {found? : Option Entry} (h : world.files.entryAt world.folder (store.file name) = .ok found?)

include h

/-- An identity is found to read where a file stands, whatever its octets. -/
theorem finds_read_iff : Finds name ((store.read name).runOn world).1 ↔
    ∃ octets, found? = some (.file octets) := by
  rcases found? with _ | _ | octets
  · rw [runOn_read_noFile h rfl]
    simp [Finds]
  · rw [runOn_read_noFile h rfl]
    simp [Finds]
  · rw [runOn_read_file h]
    refine iff_of_true (fun hresult => ?_) ⟨octets, rfl⟩
    cases secretOfOctets_error hresult with
    | format hfamily => cases hfamily

/-- An identity is found to remove where a file stands. -/
theorem finds_remove_iff : Finds name ((store.remove name).runOn world).1 ↔
    ∃ octets, found? = some (.file octets) := by
  rcases found? with _ | _ | octets
  · rw [runOn_remove_noFile h rfl]
    simp [Finds]
  · rw [runOn_remove_noFile h rfl]
    simp [Finds]
  · obtain ⟨place, log, -, hremove⟩ := runOn_remove_file h
    rw [hremove]
    simp [Finds]

end

/-! ## Listing -/

/-- What the listing of a store comes to, if it is not refused. -/
structure Lists (store : Store) (world : World) (names : List String) : Prop where
  ran : store.list.runOn world = (.ok names, world)
  sorted : names.Pairwise (· < ·)
  forms : ∀ text ∈ names, isNameForm text.toList = true
  entries : ∀ name : IdentityName, FileTree.IsEntryName (fileName name.text) →
    ∃ found?, world.files.entryAt world.folder (store.file name) = .ok found? ∧
      (name.text ∈ names ↔ found? ≠ none)

/-- Nothing is listed where the folder of a store is not. -/
theorem lists_nil {found? : Option Entry}
    (h : world.files.entryAt world.folder store.folder = .ok found?) (hentry : found? ≠ some .folder) :
    store.Lists world [] := by
  exact ⟨runOn_list_noFolder h hentry, .nil, by simp, fun name _ =>
    ⟨none, FileTree.entryAt_child_of_noFolder _ h hentry, by simp⟩⟩

/-- The entries of the folder of a store are listed, but for those without the name of an identity
file. -/
theorem lists_folder (hdistinct : world.files.IsDistinct) {place : Place}
    (hlocate : world.files.locate world.folder store.folder = .ok place)
    (hplace : world.files.get? place = some .folder) : ∃ names, store.Lists world names := by
  have hnodup : ((world.files.namesIn place).filterMap nameOfFile?).Nodup :=
    (hdistinct.nodup_namesIn place).filterMap fun first second name hfirst hsecond => by
      rw [(nameOfFile?_eq_some_iff.1 hfirst).1, (nameOfFile?_eq_some_iff.1 hsecond).1]
  refine ⟨_, runOn_list_folder hlocate hplace, pairwise_lt_mergeSort hnodup, fun text htext => ?_,
    fun name hname => ?_⟩
  · rw [List.mem_mergeSort, List.mem_filterMap] at htext
    obtain ⟨file, -, hfile⟩ := htext
    exact (nameOfFile?_eq_some_iff.1 hfile).2
  · refine ⟨_, FileTree.entryAt_of_locate (FileTree.locate_entry hlocate hplace hname), ?_⟩
    rw [List.mem_mergeSort, List.mem_filterMap, ← FileTree.mem_namesIn]
    constructor
    · rintro ⟨file, hfile, hform⟩
      obtain ⟨rfl, -⟩ := nameOfFile?_eq_some_iff.1 hform
      exact hfile
    · exact fun hfile => ⟨_, hfile, nameOfFile?_fileName name.hasForm⟩

/-- The way to the folder of a store is refused, or its names are listed. -/
theorem list_cases (store : Store) (hdistinct : world.files.IsDistinct) :
    (∃ fault, world.files.entryAt world.folder store.folder = .error fault) ∨
      ∃ names, store.Lists world names := by
  cases hentry : world.files.entryAt world.folder store.folder with
  | error fault => exact .inl ⟨fault, rfl⟩
  | ok found? =>
    right
    by_cases hfolder : found? = some .folder
    · subst hfolder
      obtain ⟨place, hlocate, hplace⟩ := FileTree.exists_locate_of_entryAt hentry
      exact lists_folder hdistinct hlocate hplace
    · exact ⟨[], lists_nil hentry hfolder⟩

/-- If the way to the folder of a store is refused, all three operations fail so.  Otherwise the names that
are listed are names of identities, in order and each once, and a name whose file fits the file system is
listed exactly if it is found to read, and exactly if it is found to remove, unless a folder stands in the
place of its file: then it is listed and not found. -/
theorem listing_agrees (store : Store) {world : World} (hdistinct : world.files.IsDistinct) :
    (∃ fault, store.list.runOn world = (.error (.file fault), world) ∧ ∀ name,
      (store.read name).runOn world = (.error (.file fault), world) ∧
      (store.remove name).runOn world = (.error (.file fault), world)) ∨
    ∃ names, store.list.runOn world = (.ok names, world) ∧ names.Pairwise (· < ·) ∧
      (∀ text ∈ names, isNameForm text.toList = true) ∧
      ∀ name : IdentityName, FileTree.IsEntryName (fileName name.text) →
        let entry := world.files.entryAt world.folder (store.file name)
        let found := Finds name ((store.read name).runOn world).1
        (found ↔ Finds name ((store.remove name).runOn world).1) ∧
        (entry ≠ .ok (some .folder) → (name.text ∈ names ↔ found)) ∧
        (entry = .ok (some .folder) → name.text ∈ names ∧ ¬ found) := by
  rcases list_cases store hdistinct with ⟨fault, hfault⟩ | ⟨names, hlists⟩
  · refine .inl ⟨fault, runOn_list_fault hfault, fun name => ?_⟩
    have hentry := FileTree.entryAt_child_of_error (fileName name.text) hfault
    exact ⟨runOn_read_fault hentry, runOn_remove_fault hentry⟩
  · refine .inr ⟨names, hlists.ran, hlists.sorted, hlists.forms, fun name hname => ?_⟩
    obtain ⟨found?, hentry, hlisted⟩ := hlists.entries name hname
    dsimp only
    rw [finds_read_iff hentry, finds_remove_iff hentry, hlisted, hentry]
    refine ⟨Iff.rfl, ?_⟩
    rcases found? with _ | _ | octets <;> simp

/-- A folder with the name of the file of `a` is listed and not found, and a file of `b` is both. -/
theorem listing_agrees_folder :
    let store : Store := ⟨⟨"", ["store"]⟩⟩
    let world : World := { World.bare with
      files := (((FileTree.empty.set ["store"] .folder).set ["store", "identity"] .folder).set
        ["store", "identity", "a.yaml"] .folder).set ["store", "identity", "b.yaml"] (.file []) }
    ∃ names, store.list.runOn world = (.ok names, world) ∧
      ("a" ∈ names ∧ ¬ Finds ⟨"a", by decide⟩ ((store.read ⟨"a", by decide⟩).runOn world).1) ∧
      ("b" ∈ names ∧ Finds ⟨"b", by decide⟩ ((store.read ⟨"b", by decide⟩).runOn world).1) := by
  intro store world
  have hdistinct : world.files.IsDistinct :=
    (((FileTree.isDistinct_empty.set _ _).set _ _).set _ _).set _ _
  have hfolder : world.files.entryAt world.folder (store.file ⟨"a", by decide⟩) =
      .ok (some .folder) := rfl
  have hfile : world.files.entryAt world.folder (store.file ⟨"b", by decide⟩) =
      .ok (some (.file [])) := rfl
  rcases listing_agrees store hdistinct with ⟨fault, -, hrefused⟩ | ⟨names, hlist, -, -, hnames⟩
  · have hread := runOn_read_noFile hfolder rfl
    rw [(hrefused ⟨"a", by decide⟩).1] at hread
    cases (Prod.mk.inj hread).1
  · obtain ⟨-, -, ha⟩ := hnames ⟨"a", by decide⟩ ((isEntryName_fileName_iff (by decide)).2 (by decide))
    obtain ⟨-, hb, -⟩ := hnames ⟨"b", by decide⟩ ((isEntryName_fileName_iff (by decide)).2 (by decide))
    have hfound := (finds_read_iff hfile).2 ⟨[], rfl⟩
    exact ⟨names, hlist, ha hfolder, (hb (by rw [hfile]; simp)).2 hfound, hfound⟩

end NamedKeys.Store
