import Mathlib.Logic.Function.Basic
import NamedKeys.Proofs.Files.Closed
import NamedKeys.Proofs.Files.Replace
import NamedKeys.Proofs.Store.Document
import NamedKeys.Proofs.Store.Lookup

/-!
# What a store keeps

A store keeps a secret under each of some names and none under the others: either its folder is still
to be made, or it is there with a file for each of these names.  Each operation is described by what
the store keeps before and after it:

    write      the secret is kept under the name                    (runOn_write)
    read       the secret that is kept, or a failure                (runOn_read)
    remove     nothing is kept under the name, or a failure         (runOn_remove)
    list       the names under which something is kept, in order    (runOn_list)

A write that fails changes nothing of what is kept (`runOn_write_error`).
-/

namespace NamedKeys

namespace Store

/-! ## What is kept -/

/-- A name whose file fits the file system, and a secret that is read from its text. -/
structure IsStored (name : String) (secret : Secret) : Prop where
  form : isNameForm name.toList = true
  short : name.toList.length ≤ 250
  readable : Secret.parse secret.text = .ok secret

def content (secret : Secret) : Entry :=
  .file (Text.Utf8.encode (document secret))

/-- The folder of a store is at a place, with a file for each name under which a secret is kept. -/
structure Holds (store : Store) (place : Place) (world : World) (secrets : String → Option Secret) :
    Prop where
  located : world.files.locate world.folder store.folder = .ok place
  isFolder : world.files.get? place = some .folder
  kept : ∀ name, isNameForm name.toList = true →
    world.files.get? (place ++ [fileName name]) = (secrets name).map content
  nodup : ((world.files.namesIn place).filterMap nameOfFile?).Nodup
  stored : ∀ name secret, secrets name = some secret → IsStored name secret

/-- The folder of a store is not there, can be made, and has no file of an identity when it is. -/
structure IsFresh (store : Store) (world : World) : Prop where
  absent : world.files.entryAt world.folder store.folder = .ok none
  makeable : ∃ tree, world.files.ensureFolders world.folder store.folder = (tree, .ok ()) ∧
    ∀ place, tree.locate world.folder store.folder = .ok place →
      (tree.namesIn place).filterMap nameOfFile? = []

/-- A store whose folder is not there and can be made is fresh, if no `..` leads to it. -/
theorem isFresh_of_noParent {store : Store} {world : World} (hclosed : world.files.IsClosed)
    (hroot : ".." ∉ store.root.names)
    (habsent : world.files.entryAt world.folder store.folder = .ok none)
    (hmade : (world.files.ensureFolders world.folder store.folder).2 = .ok ()) :
    store.IsFresh world := by
  have hnames : ".." ∉ store.folder.names := by
    rw [folder, Path.child, List.mem_append, not_or]
    exact ⟨hroot, by decide⟩
  refine ⟨habsent, _, Prod.ext rfl hmade, fun place hlocate => ?_⟩
  rw [FileTree.namesIn_made hclosed hnames habsent (Prod.ext rfl hmade) hlocate, List.filterMap_nil]

theorem isFresh_bare : IsFresh ⟨⟨"", ["store"]⟩⟩ .bare :=
  isFresh_of_noParent FileTree.isClosed_empty (by decide) (by decide) (by decide)

/-- The root of a store is a folder with nothing in it. -/
def HasEmptyRoot (store : Store) (world : World) : Prop :=
  ∃ place, world.files.locate world.folder store.root = .ok place ∧
    world.files.get? place = some .folder ∧
    ∀ names ≠ [], world.files.get? (place ++ names) = none

theorem HasEmptyRoot.isFresh {store : Store} {world : World} (h : store.HasEmptyRoot world) :
    store.IsFresh world := by
  obtain ⟨place, hlocate, hplace, hempty⟩ := h
  have hfree : world.files.get? (place ++ ["identity"]) = none := hempty _ (by simp)
  have hfolder : world.files.locate world.folder store.folder = .ok (place ++ ["identity"]) :=
    FileTree.locate_entry hlocate hplace ⟨by decide, by decide⟩
  have hensure : world.files.ensureFolder world.folder store.folder =
      .ok (world.files.set (place ++ ["identity"]) .folder) := by
    have hmake : world.files.makeFolder world.folder store.folder =
        .ok (world.files.set (place ++ ["identity"]) .folder) := by
      rw [FileTree.makeFolder, hfolder]
      simp only [bind, Except.bind, hfree]
    rw [FileTree.ensureFolder, hmake]
  constructor
  · rw [FileTree.entryAt_of_locate hfolder, hfree]
  · refine ⟨world.files.set (place ++ ["identity"]) .folder, ?_, fun other hother => ?_⟩
    · have hpath : (⟨store.folder.anchor, ("identity" :: store.root.names.reverse).reverse⟩ : Path) =
          store.folder := by
        rw [List.reverse_cons, List.reverse_reverse]
        rfl
      have hnames : store.folder.names.reverse = "identity" :: store.root.names.reverse :=
        List.reverse_concat
      rw [FileTree.ensureFolders, hnames, FileTree.ensureFoldersAt, hpath, hensure]
      rfl
    · have hnot : world.files.get? (place ++ ["identity"]) ≠ some .folder := by simp [hfree]
      have hkeeps := FileTree.keepsFolders_set .folder hnot
      rw [FileTree.locate_mono hkeeps hfolder] at hother
      obtain rfl := Except.ok.inj hother
      rw [List.filterMap_eq_nil_iff]
      intro name hname
      rw [FileTree.mem_namesIn, FileTree.get?_set_of_ne _ (by simp), List.append_assoc,
        hempty _ (by simp)] at hname
      exact absurd rfl hname

/-- A store keeps secrets under names. -/
inductive Keeps (store : Store) (world : World) (secrets : String → Option Secret) : Prop
  | fresh (hfresh : store.IsFresh world) (hnone : ∀ name, secrets name = none)
  | made (place : Place) (hholds : store.Holds place world secrets)

section

variable {store : Store} {place : Place} {world after : World} {secrets : String → Option Secret}

/-- Only the files and the current folder count. -/
theorem Keeps.congr (h : store.Keeps world secrets) (hfiles : after.files = world.files)
    (hfolder : after.folder = world.folder) : store.Keeps after secrets := by
  cases h with
  | fresh hfresh hnone =>
    refine .fresh ⟨?_, ?_⟩ hnone
    · rw [hfiles, hfolder]
      exact hfresh.absent
    · rw [hfiles, hfolder]
      exact hfresh.makeable
  | made place hholds =>
    obtain ⟨located, isFolder, kept, nodup, stored⟩ := hholds
    refine .made place ⟨?_, ?_, ?_, ?_, stored⟩
    · rwa [hfiles, hfolder]
    · rwa [hfiles]
    · rwa [hfiles]
    · rwa [hfiles]

theorem Keeps.stored (h : store.Keeps world secrets) {name : String} {secret : Secret}
    (hname : secrets name = some secret) : IsStored name secret := by
  cases h with
  | fresh hfresh hnone =>
    rw [hnone name] at hname
    cases hname
  | made place hholds => exact hholds.stored name secret hname

/-- The names of the files of a folder are those under which something is kept. -/
theorem Holds.mem_names (h : store.Holds place world secrets) (name : String) :
    name ∈ (world.files.namesIn place).filterMap nameOfFile? ↔ (secrets name).isSome = true := by
  rw [List.mem_filterMap]
  constructor
  · rintro ⟨file, hfile, hname⟩
    obtain ⟨rfl, hform⟩ := nameOfFile?_eq_some_iff.1 hname
    rw [FileTree.mem_namesIn, h.kept name hform] at hfile
    cases hsecret : secrets name with
    | none =>
      rw [hsecret] at hfile
      exact absurd rfl hfile
    | some secret => rfl
  · intro hsome
    obtain ⟨secret, hsecret⟩ := Option.isSome_iff_exists.1 hsome
    have hform := (h.stored name secret hsecret).form
    refine ⟨fileName name, ?_, nameOfFile?_fileName hform⟩
    rw [FileTree.mem_namesIn, h.kept name hform, hsecret]
    simp

/-- A fresh store whose folder has been made holds nothing. -/
theorem IsFresh.holds (h : store.IsFresh world) :
    ∃ tree place, world.files.ensureFolders world.folder store.folder = (tree, .ok ()) ∧
      store.Holds place { world with files := tree } fun _ => none := by
  obtain ⟨tree, hmade, hclean⟩ := h.makeable
  obtain ⟨place, hlocate, hplace⟩ := FileTree.ensureFolders_ok hmade
  have hnames := hclean place hlocate
  refine ⟨tree, place, hmade, hlocate, hplace, fun name hform => ?_, ?_, fun _ _ h => by cases h⟩
  · by_contra hkept
    have hmem : fileName name ∈ tree.namesIn place := FileTree.mem_namesIn.2 hkept
    have hname : name ∈ (tree.namesIn place).filterMap nameOfFile? :=
      List.mem_filterMap.2 ⟨_, hmem, nameOfFile?_fileName hform⟩
    rw [hnames] at hname
    cases hname
  · show ((tree.namesIn place).filterMap nameOfFile?).Nodup
    rw [hnames]
    exact List.nodup_nil

/-- Making the folder of a store changes nothing of what is kept. -/
theorem Keeps.holds (h : store.Keeps world secrets) :
    ∃ tree place, world.files.ensureFolders world.folder store.folder = (tree, .ok ()) ∧
      store.Holds place { world with files := tree } secrets := by
  cases h with
  | fresh hfresh hnone =>
    obtain rfl : secrets = fun _ => none := funext hnone
    exact hfresh.holds
  | made place hholds =>
    exact ⟨world.files, place,
      FileTree.ensureFolders_of_folder hholds.located hholds.isFolder, hholds⟩

/-! ## One file more or less -/

theorem mem_of_mem_filter {names : List String} {name other : String}
    (h : other ∈ (names.filter (· ≠ fileName name)).filterMap nameOfFile?) : other ≠ name := by
  rintro rfl
  obtain ⟨file, hfile, hname⟩ := List.mem_filterMap.1 h
  obtain ⟨rfl, -⟩ := nameOfFile?_eq_some_iff.1 hname
  simpa using (List.mem_filter.1 hfile).2

theorem nodup_filter {names : List String} (h : (names.filterMap nameOfFile?).Nodup)
    (p : String → Bool) : ((names.filter p).filterMap nameOfFile?).Nodup :=
  h.sublist (List.filter_sublist.filterMap nameOfFile?)

theorem Holds.not_folder (h : store.Holds place world secrets) {name : String}
    (hform : isNameForm name.toList = true) :
    world.files.get? (place ++ [fileName name]) ≠ some .folder := by
  rw [h.kept name hform]
  cases secrets name <;> simp [content]

theorem Holds.located_entry (h : store.Holds place world secrets) {name : String}
    (hform : isNameForm name.toList = true) (hshort : name.toList.length ≤ 250) :
    world.files.locate world.folder (store.folder.child (fileName name)) =
      .ok (place ++ [fileName name]) :=
  FileTree.locate_entry h.located h.isFolder ((isEntryName_fileName_iff hform).2 hshort)

/-- The file of a secret is put into the folder. -/
theorem Holds.set (h : store.Holds place world secrets) {name : String} {secret : Secret}
    (hstored : IsStored name secret) :
    store.Holds place
      { world with files := world.files.set (place ++ [fileName name]) (content secret) }
      (Function.update secrets name (some secret)) := by
  have hkeeps := FileTree.keepsFolders_set (content secret) (h.not_folder hstored.form)
  refine ⟨FileTree.locate_mono hkeeps h.located, hkeeps place h.isFolder, fun other hother => ?_, ?_,
    fun other kept hkept => ?_⟩
  · by_cases hname : other = name
    · subst hname
      rw [Function.update_self]
      exact FileTree.get?_set_self _ (by simp)
    · rw [Function.update_of_ne hname, ← h.kept other hother]
      exact FileTree.get?_set_of_ne _ fun heq => hname (fileName_injective (by simpa using heq))
  · show (((world.files.set (place ++ [fileName name]) (content secret)).namesIn place).filterMap
      nameOfFile?).Nodup
    rw [FileTree.namesIn_set, List.filterMap_cons_some (nameOfFile?_fileName hstored.form),
      List.nodup_cons]
    exact ⟨fun hmem => mem_of_mem_filter hmem rfl, nodup_filter h.nodup _⟩
  · by_cases hname : other = name
    · subst hname
      rw [Function.update_self] at hkept
      rw [← Option.some.inj hkept]
      exact hstored
    · rw [Function.update_of_ne hname] at hkept
      exact h.stored other kept hkept

/-- The file of a secret is removed from the folder. -/
theorem Holds.erase (h : store.Holds place world secrets) {name : String}
    (hform : isNameForm name.toList = true) :
    store.Holds place { world with files := world.files.erase (place ++ [fileName name]) }
      (Function.update secrets name none) := by
  have hkeeps := FileTree.keepsFolders_erase (h.not_folder hform)
  refine ⟨FileTree.locate_mono hkeeps h.located, hkeeps place h.isFolder, fun other hother => ?_, ?_,
    fun other kept hkept => ?_⟩
  · by_cases hname : other = name
    · subst hname
      rw [Function.update_self]
      exact FileTree.get?_erase_self (by simp)
    · rw [Function.update_of_ne hname, ← h.kept other hother]
      exact FileTree.get?_erase_of_ne fun heq => hname (fileName_injective (by simpa using heq))
  · show (((world.files.erase (place ++ [fileName name])).namesIn place).filterMap nameOfFile?).Nodup
    rw [FileTree.namesIn_erase]
    exact nodup_filter h.nodup _
  · by_cases hname : other = name
    · subst hname
      rw [Function.update_self] at hkept
      cases hkept
    · rw [Function.update_of_ne hname] at hkept
      exact h.stored other kept hkept

end

/-! ## Operations -/

section

variable {store : Store} {world : World} {secrets : String → Option Secret}
  (h : store.Keeps world secrets) (name : IdentityName)

include h

/-- A secret that is written is kept. -/
theorem runOn_write {secret : Secret} (hshort : name.text.toList.length ≤ 250)
    (hread : Secret.parse secret.text = .ok secret) (hreplace : world.replaceRefusal = none) :
    ∃ files log, (store.write name secret).runOn world = (.ok (), { world with files, log }) ∧
      store.Keeps { world with files, log } (Function.update secrets name.text (some secret)) := by
  obtain ⟨tree, place, hmade, hholds⟩ := h.holds
  have hwrite := Action.runOn_writeAtOnce hmade hholds.located hholds.isFolder hreplace
    ((isEntryName_fileName_iff name.hasForm).2 hshort) (dot_mem_fileName name.text)
    (hholds.not_folder name.hasForm) (document secret)
  have hset := hholds.set ⟨name.hasForm, hshort, hread⟩
  refine ⟨tree.set (place ++ [fileName name.text]) (content secret), world.log ++ [⟨.info,
    "Identity " ++ Text.quoted name.text ++ " written to " ++ (store.file name).text⟩], ?_,
    (Keeps.made place hset).congr rfl rfl⟩
  rw [write, file_eq]
  simp only [Action.runOn_bind, hwrite, Action.runOn_log]
  rfl

/-- A write that fails changes nothing of what is kept. -/
theorem runOn_write_error (secret : Secret)
    (hfails : world.replaceRefusal ≠ none ∨ 250 < name.text.toList.length) :
    ∃ failure files, (store.write name secret).runOn world = (.error failure, { world with files }) ∧
      store.Keeps { world with files } secrets := by
  obtain ⟨tree, place, hmade, hholds⟩ := h.holds
  have hlong : world.replaceRefusal ≠ none ∨ ¬ FileTree.IsEntryName (fileName name.text) ∨
      tree.get? (place ++ [fileName name.text]) = some .folder := by
    refine hfails.imp id fun hlong => .inl fun hname => ?_
    have := (isEntryName_fileName_iff name.hasForm).1 hname
    omega
  obtain ⟨failure, hwrite⟩ := Action.runOn_writeAtOnce_error hmade hholds.located hholds.isFolder
    (fileName_ne_parent _) hlong (document secret)
  refine ⟨failure, tree, ?_, .made place hholds⟩
  rw [write, file_eq]
  simp only [Action.runOn_bind, hwrite]

theorem entryAt_file (hshort : name.text.toList.length ≤ 250) :
    world.files.entryAt world.folder (store.file name) =
      .ok ((secrets name.text).map content) := by
  rw [file_eq]
  cases h with
  | fresh hfresh hnone =>
    rw [FileTree.entryAt_child_of_noFolder _ hfresh.absent (by simp), hnone]
    rfl
  | made place hholds =>
    rw [FileTree.entryAt_of_locate (hholds.located_entry name.hasForm hshort),
      hholds.kept name.text name.hasForm]

/-- Nothing is found under a name that is too long for a file. -/
theorem entryAt_of_long (hlong : 250 < name.text.toList.length) :
    world.files.entryAt world.folder (store.file name) = .ok none ∨
      world.files.entryAt world.folder (store.file name) = .error .nameTooLong := by
  rw [file_eq]
  cases h with
  | fresh hfresh hnone => exact .inl (FileTree.entryAt_child_of_noFolder _ hfresh.absent (by simp))
  | made place hholds =>
    right
    rw [FileTree.entryAt, FileTree.locate_child, hholds.located]
    dsimp only
    rw [FileTree.follow, hholds.isFolder]
    dsimp only
    rw [if_neg (fileName_ne_parent _), if_pos]
    rw [utf8ByteSize_fileName name.hasForm, FileTree.longestName]
    omega

/-- The secret that is kept is read. -/
theorem runOn_read (hshort : name.text.toList.length ≤ 250) :
    (store.read name).runOn world =
      (match secrets name.text with
        | some secret => .ok secret
        | none => .error (.identityNotFound name.text), world) := by
  have hentry := entryAt_file h name hshort
  cases hsecret : secrets name.text with
  | none =>
    rw [hsecret] at hentry
    exact runOn_read_noFile hentry rfl
  | some secret =>
    rw [hsecret] at hentry
    rw [runOn_read_file hentry, secretOfOctets_document _ (h.stored hsecret).readable]

/-- A secret that is removed is no longer kept. -/
theorem runOn_remove {secret : Secret} (hsecret : secrets name.text = some secret) :
    ∃ files log, (store.remove name).runOn world = (.ok (), { world with files, log }) ∧
      store.Keeps { world with files, log } (Function.update secrets name.text none) := by
  have hshort := (h.stored hsecret).short
  have hentry := entryAt_file h name hshort
  rw [hsecret] at hentry
  obtain ⟨found, log, hlocate, hremove⟩ := runOn_remove_file hentry
  cases h with
  | fresh hfresh hnone =>
    rw [hnone] at hsecret
    cases hsecret
  | made place hholds =>
    rw [file_eq, hholds.located_entry name.hasForm hshort] at hlocate
    obtain rfl := Except.ok.inj hlocate
    exact ⟨_, _, hremove, (Keeps.made place (hholds.erase name.hasForm)).congr rfl rfl⟩

theorem runOn_remove_none (hshort : name.text.toList.length ≤ 250)
    (hnone : secrets name.text = none) :
    (store.remove name).runOn world = (.error (.identityNotFound name.text), world) := by
  have hentry := entryAt_file h name hshort
  rw [hnone] at hentry
  exact runOn_remove_noFile hentry rfl

theorem runOn_remove_of_long (hlong : 250 < name.text.toList.length) :
    ∃ failure, (store.remove name).runOn world = (.error failure, world) := by
  rcases entryAt_of_long h name hlong with hentry | hentry
  · exact ⟨_, runOn_remove_noFile hentry rfl⟩
  · exact ⟨_, runOn_remove_fault hentry⟩

end

/-- A write that succeeds, in any tree, has put the file of the secret into the folder. -/
theorem write_ok {store : Store} {world after : World} {name : IdentityName} {secret : Secret}
    (h : (store.write name secret).runOn world = (.ok (), after)) :
    ∃ (tree : FileTree) (place : Place),
      world.files.ensureFolders world.folder store.folder = (tree, .ok ()) ∧
      tree.locate world.folder store.folder = .ok place ∧ tree.get? place = some .folder ∧
      FileTree.IsEntryName (fileName name.text) ∧
      tree.get? (place ++ [fileName name.text]) ≠ some .folder ∧ world.replaceRefusal = none ∧
      after.files = tree.set (place ++ [fileName name.text]) (content secret) := by
  rw [write, file_eq] at h
  obtain ⟨⟨⟩, middle, hrun, hlog⟩ := Action.exists_of_runOn_bind h
  obtain ⟨tree, place, hmade, hlocate, hplace, hname, htarget, hreplace, rfl⟩ :=
    Action.writeAtOnce_ok (fileName_ne_parent _) (dot_mem_fileName _) hrun
  rw [Action.runOn_log] at hlog
  rw [← (Prod.mk.inj hlog).2]
  exact ⟨tree, place, hmade, hlocate, hplace, hname, htarget, hreplace, rfl⟩

/-- What has been written is in its folder, as long as files stay as they are. -/
theorem written {store : Store} {world after other : World} {name : IdentityName} {secret : Secret}
    (h : (store.write name secret).runOn world = (.ok (), after))
    (hsame : World.SameStores after other) :
    ∃ place, other.files.locate other.folder store.folder = .ok place ∧
      other.files.get? place = some .folder ∧ FileTree.IsEntryName (fileName name.text) ∧
      other.files.get? (place ++ [fileName name.text]) = some (content secret) ∧
      other.replaceRefusal = none := by
  obtain ⟨tree, place, -, hlocate, hplace, hname, htarget, hreplace, hafter⟩ := write_ok h
  have hkeychains : World.SameKeychains world ((store.write name secret).runOn world).2 :=
    store.keeps_write name secret world
  rw [h] at hkeychains
  have hfiles : other.files = after.files := hsame.files
  have hkeeps := FileTree.keepsFolders_set (content secret) htarget
  rw [hafter] at hfiles
  refine ⟨place, ?_, ?_, hname, ?_, ?_⟩
  · rw [hfiles, hsame.folder, hkeychains.folder]
    exact FileTree.locate_mono hkeeps hlocate
  · rw [hfiles]
    exact hkeeps place hplace
  · rw [hfiles, FileTree.get?_set_self _ (by simp)]
  · exact (hsame.replaceRefusal.trans hkeychains.replaceRefusal).trans hreplace

/-- The same write again leaves the same files. -/
theorem write_again {store : Store} {world after other : World} {name : IdentityName}
    {secret : Secret} (h : (store.write name secret).runOn world = (.ok (), after))
    (hsame : World.SameStores after other) :
    ∃ last, (store.write name secret).runOn other = (.ok (), last) ∧
      ∀ place, last.files.get? place = after.files.get? place := by
  obtain ⟨place, hlocate, hplace, hname, hkept, hreplace⟩ := written h hsame
  have htarget : other.files.get? (place ++ [fileName name.text]) ≠ some .folder := by
    rw [hkept]
    simp [content]
  have hwrite := Action.runOn_writeAtOnce (FileTree.ensureFolders_of_folder hlocate hplace) hlocate
    hplace hreplace hname (dot_mem_fileName _) htarget (document secret)
  refine ⟨_, by rw [write, file_eq]; simp only [Action.runOn_bind_ok hwrite]; rfl, fun somewhere => ?_⟩
  show (other.files.set _ (content secret)).get? somewhere = after.files.get? somewhere
  rw [← hsame.files]
  by_cases hsomewhere : somewhere = place ++ [fileName name.text]
  · rw [hsomewhere, FileTree.get?_set_self _ (by simp), hkept]
  · rw [FileTree.get?_set_of_ne _ hsomewhere]

theorem pairwise_lt_mergeSort {names : List String} (h : names.Nodup) :
    (names.mergeSort fun a b => decide (a ≤ b)).Pairwise (· < ·) := by
  have hsorted : (names.mergeSort fun a b => decide (a ≤ b)).Pairwise
      fun a b => decide (a ≤ b) = true := by
    refine List.pairwise_mergeSort (fun a b c hab hbc => ?_) (fun a b => ?_) names
    · rw [decide_eq_true_eq] at hab hbc ⊢
      exact String.le_trans hab hbc
    · rw [Bool.or_eq_true, decide_eq_true_eq, decide_eq_true_eq]
      exact String.le_total a b
  have hnodup := (List.mergeSort_perm names fun a b => decide (a ≤ b)).nodup_iff.2 h
  refine (hsorted.and hnodup).imp fun {a b} hab => ?_
  by_contra hlt
  exact hab.2 (String.le_antisymm (decide_eq_true_eq.mp hab.1) (String.not_lt.1 hlt))

/-- The names under which something is kept are listed in order, each once. -/
theorem runOn_list {store : Store} {world : World} {secrets : String → Option Secret}
    (h : store.Keeps world secrets) :
    ∃ names, store.list.runOn world = (.ok names, world) ∧ names.Pairwise (· < ·) ∧
      ∀ name, name ∈ names ↔ (secrets name).isSome = true := by
  cases h with
  | fresh hfresh hnone =>
    exact ⟨[], runOn_list_noFolder hfresh.absent (by simp), .nil, fun name => by simp [hnone]⟩
  | made place hholds =>
    refine ⟨_, runOn_list_folder hholds.located hholds.isFolder, pairwise_lt_mergeSort hholds.nodup,
      fun name => ?_⟩
    rw [List.mem_mergeSort, hholds.mem_names]

end Store

end NamedKeys
