import NamedKeys.Proofs.Faults
import NamedKeys.Proofs.Files.Folders
import NamedKeys.Proofs.Store.Keeps

/-!
# Writing an identity in any file tree

An identity can be written under a name exactly where the folder of the store is there or can be made,
no folder stands in the place of the file, and the file system refuses neither the name of the file
nor its replacement:

    (write name secret world).1 = .ok () ↔ IsWritable name world                  (write_ok_iff)

A write is all or nothing: one file has the new content, or none has changed (`write_all_or_nothing`).
The text of the secret does not matter; what is loaded from its file is this text, whatever its
characters, and so the secret that is read is the one that the text is read as (`write_transparent`).
-/

namespace NamedKeys.Store

open NamedKeys.Action

variable {store : Store} {world after other : World} {name : IdentityName} {secret : Secret}

/-- An identity can be written under a name. -/
structure IsWritable (store : Store) (name : IdentityName) (world : World) : Prop where
  fits : FileTree.IsEntryName (fileName name.text)
  unrefused : world.replaceRefusal = none
  makeable : ∃ tree place, world.files.ensureFolders world.folder store.folder = (tree, .ok ()) ∧
    tree.locate world.folder store.folder = .ok place ∧
    tree.get? (place ++ [fileName name.text]) ≠ some .folder

/-- Only the files, the current folder and what the file system refuses count. -/
theorem IsWritable.congr (h : store.IsWritable name world) (hsame : World.SameTree world other) :
    store.IsWritable name other := by
  obtain ⟨fits, unrefused, makeable⟩ := h
  refine ⟨fits, hsame.replaceRefusal.trans unrefused, ?_⟩
  rwa [hsame.files, hsame.folder]

/-- A store that keeps secrets can be written under every name that is short enough. -/
theorem Keeps.isWritable {secrets : String → Option Secret} (h : store.Keeps world secrets)
    (name : IdentityName) (hshort : name.text.toList.length ≤ 250)
    (hreplace : world.replaceRefusal = none) : store.IsWritable name world := by
  obtain ⟨tree, place, hmade, hholds⟩ := h.holds
  exact ⟨(isEntryName_fileName_iff name.hasForm).2 hshort, hreplace, tree, place, hmade,
    hholds.located, hholds.not_folder name.hasForm⟩

/-- An identity is written where it can be, whatever its secret. -/
theorem write_ok_iff (secret : Secret) :
    ((store.write name secret).runOn world).1 = .ok () ↔ store.IsWritable name world := by
  constructor
  · intro h
    have hrun : (store.write name secret).runOn world = (.ok (), _) := Prod.ext h rfl
    obtain ⟨tree, place, hmade, hlocate, -, hname, htarget, hreplace, -⟩ := write_ok hrun
    exact ⟨hname, hreplace, tree, place, hmade, hlocate, htarget⟩
  · rintro ⟨fits, unrefused, tree, place, hmade, hlocate, htarget⟩
    obtain ⟨found, hfound, hfolder⟩ := FileTree.ensureFolders_ok hmade
    obtain rfl : found = place := by
      rw [hlocate] at hfound
      exact (Except.ok.inj hfound).symm
    have hwrite := runOn_writeAtOnce hmade hlocate hfolder unrefused fits (dot_mem_fileName _)
      htarget (document secret)
    rw [write, file_eq]
    simp only [runOn_bind_ok hwrite]
    rfl

/-- The document of a secret that has been written is in its file, as long as files stay as they are. -/
theorem entryAt_written (h : (store.write name secret).runOn world = (.ok (), after))
    (hsame : World.SameStores after other) :
    other.files.entryAt other.folder (store.file name) = .ok (some (content secret)) := by
  obtain ⟨place, hlocate, hfolder, hname, hkept, -⟩ := written h hsame
  rw [file_eq, FileTree.entryAt_of_locate (FileTree.locate_entry hlocate hfolder hname), hkept]

/-- What has been written is read back, as long as files stay as they are. -/
theorem read_of_write (h : (store.write name secret).runOn world = (.ok (), after))
    (hread : Secret.parse secret.text = .ok secret) (hsame : World.SameStores after other) :
    (store.read name).runOn other = (.ok secret, other) := by
  rw [runOn_read_file (entryAt_written h hsame), secretOfOctets_document _ hread]

/-- Any secret that has been written is loaded as one entry, from its kind to its whole text, so that what
is read is what that text is read as, provided that it is of that kind; otherwise the text is reported
as no secret. -/
theorem write_transparent (h : (store.write name secret).runOn world = (.ok (), after)) :
    ∃ octets text, (readFile? (store.file name)).runOn after = (.ok (some octets), after) ∧
      Text.Utf8.decode? octets = some text ∧
      Yaml.load (Text.unifyLineEnds text) =
        .ok (.map [(.text secret.kind.word.toList, .atom (.text secret.text.toList))]) ∧
      (∀ found, (store.read name).runOn after = (.ok found, after) ↔
        Secret.parse secret.text = .ok found ∧ found.kind = secret.kind) ∧
      ((¬ ∃ found, Secret.parse secret.text = .ok found ∧ found.kind = secret.kind) →
        ∃ failure, (store.read name).runOn after = (.error failure, after) ∧
          failure.family = .secretFormat) := by
  have hentry := entryAt_written h (.refl after)
  have hread := runOn_read_file hentry
  rw [secretOfOctets_encode] at hread
  have hoctets : (readFile? (store.file name)).runOn after =
      (.ok (some (Text.Utf8.encode (document secret))), after) := by
    rw [runOn_readFile?, hentry]
    rfl
  refine ⟨_, _, hoctets, Text.Utf8.decode?_encode (isAscii_document secret), load_document secret,
    fun found => ?_, fun hnone => ?_⟩
  · rw [hread, Prod.mk_left_inj, secretOfText_ok_iff]
  · rw [hread]
    cases hresult : secretOfText (store.file name).text secret.kind secret.text with
    | ok found => exact absurd ⟨found, secretOfText_ok_iff.1 hresult⟩ hnone
    | error failure => exact ⟨failure, rfl, secretOfText_error_family hresult⟩

/-- A text with blanks, a line feed and the looks of a date is loaded as it is, and is no secret. -/
theorem write_transparent_date :
    let store : Store := ⟨⟨"", ["store"]⟩⟩
    let secret : Secret := .secretKey " 2021-02-30: #\n"
    let after := ((store.write ⟨"a", by decide⟩ secret).runOn .bare).2
    (∃ octets text, (readFile? (store.file ⟨"a", by decide⟩)).runOn after = (.ok (some octets), after) ∧
      Text.Utf8.decode? octets = some text ∧ Yaml.load (Text.unifyLineEnds text) =
        .ok (.map [(.text "secret_key".toList, .atom (.text " 2021-02-30: #\n".toList))])) ∧
    ∃ failure, (store.read ⟨"a", by decide⟩).runOn after = (.error failure, after) ∧
      failure.family = .secretFormat := by
  have hwritable := (Keeps.fresh isFresh_bare fun _ => rfl).isWritable ⟨"a", by decide⟩ (by decide) rfl
  have hwrite := (write_ok_iff (.secretKey " 2021-02-30: #\n")).2 hwritable
  obtain ⟨octets, text, hoctets, htext, hload, -, hother⟩ := write_transparent (Prod.ext hwrite rfl)
  have hparse : Secret.parse " 2021-02-30: #\n" = .error .unknownSecret := by rfl
  refine ⟨⟨octets, text, hoctets, htext, hload⟩, hother ?_⟩
  rintro ⟨found, hfound, -⟩
  cases hparse.symm.trans hfound

/-- A write that fails, fails as the file system does, and has made folders at most. -/
theorem write_error {failure : Failure}
    (h : (store.write name secret).runOn world = (.error failure, after)) :
    (∃ fault, failure = .file fault) ∧ World.SameKeychains world after ∧
      world.files.MakesFolders after.files world.folder store.folder := by
  have hkeychains : World.SameKeychains world ((store.write name secret).runOn world).2 :=
    store.keeps_write name secret world
  rw [h] at hkeychains
  refine ⟨store.failsIn_write name secret world failure (congrArg Prod.fst h), hkeychains, ?_⟩
  rw [write, file_eq] at h
  rcases hrun : (writeAtOnce (store.folder.child (fileName name.text)) (document secret)).runOn
      world with ⟨other | ⟨⟩, middle⟩
  · simp only [runOn_bind_error hrun] at h
    rw [← (Prod.mk.inj h).2]
    exact writeAtOnce_error (fileName_ne_parent _) (dot_mem_fileName _) hrun
  · simp only [runOn_bind_ok hrun] at h
    cases (Prod.mk.inj h).1

/-- A write that succeeds has made folders at most, and has put one file in the stead of another. -/
theorem write_ok_files (h : (store.write name secret).runOn world = (.ok (), after)) :
    ∃ place, after.files.locate world.folder (store.file name) = .ok place ∧
      (∀ other octets, after.files.get? other = some (.file octets) ↔
        if other = place then octets = Text.Utf8.encode (document secret)
        else world.files.get? other = some (.file octets)) ∧
      world.files.KeepsFolders after.files ∧
      ∀ other, after.files.get? other = some .folder → world.files.get? other ≠ some .folder →
        ∃ names, names <+: store.folder.names ∧
          after.files.locate world.folder ⟨store.folder.anchor, names⟩ = .ok other := by
  obtain ⟨tree, place, hmade, hlocate, hplace, hname, htarget, -, hafter⟩ := write_ok h
  have hmakes := world.files.ensureFolders_makesFolders world.folder store.folder
  rw [hmade] at hmakes
  have hkeeps := FileTree.keepsFolders_set (content secret) htarget
  have hlocated : tree.locate world.folder (store.file name) = .ok (place ++ [fileName name.text]) :=
    FileTree.locate_entry hlocate hplace hname
  rw [hafter]
  refine ⟨place ++ [fileName name.text], FileTree.locate_mono hkeeps hlocated, fun other octets => ?_,
    fun other hother => hkeeps other (hmakes.folders other hother), fun other hother hnew => ?_⟩
  · by_cases heq : other = place ++ [fileName name.text]
    · rw [heq, FileTree.get?_set_self _ (by simp), if_pos rfl, content]
      simp [eq_comm]
    · rw [FileTree.get?_set_of_ne _ heq, if_neg heq]
      exact hmakes.files other octets
  · have hother' : tree.get? other = some .folder := by
      by_cases heq : other = place ++ [fileName name.text]
      · rw [heq, FileTree.get?_set_self _ (by simp), content] at hother
        cases hother
      · rwa [FileTree.get?_set_of_ne _ heq] at hother
    obtain ⟨names, hpart, hfound⟩ := hmakes.parents other hother' hnew
    exact ⟨names, hpart, FileTree.locate_mono hkeeps hfound⟩

/-- A write succeeds exactly where the name fits, its folder can be made, no folder stands in the place of
the file and the file is not refused.  If it fails, it fails as the file system does, every file is as it
was and there is no other one; if it succeeds, this holds of all files but that of the name, which has
the new content.  New folders stand on the way to the folder of the store, and keychains do not change. -/
theorem write_all_or_nothing (store : Store) (name : IdentityName) (secret : Secret) (world : World) :
    let run := (store.write name secret).runOn world
    (run.1 = .ok () ↔ store.IsWritable name world) ∧ World.SameKeychains world run.2 ∧
      (∀ failure, run.1 = .error failure → (∃ fault, failure = .file fault) ∧
        ∀ other octets, run.2.files.get? other = some (.file octets) ↔
          world.files.get? other = some (.file octets)) ∧
      (run.1 = .ok () → ∃ place, run.2.files.locate world.folder (store.file name) = .ok place ∧
        ∀ other octets, run.2.files.get? other = some (.file octets) ↔
          if other = place then octets = Text.Utf8.encode (document secret)
          else world.files.get? other = some (.file octets)) ∧
      world.files.KeepsFolders run.2.files ∧
      ∀ other, run.2.files.get? other = some .folder → world.files.get? other ≠ some .folder →
        ∃ names, names <+: store.folder.names ∧
          run.2.files.locate world.folder ⟨store.folder.anchor, names⟩ = .ok other := by
  dsimp only
  refine ⟨write_ok_iff secret, store.keeps_write name secret world, ?_⟩
  rcases hrun : (store.write name secret).runOn world with ⟨failure | ⟨⟩, after⟩
  · obtain ⟨hfault, -, hmakes⟩ := write_error hrun
    refine ⟨fun other hother => ?_, (by rintro ⟨⟩), hmakes.folders, hmakes.parents⟩
    obtain rfl := Except.error.inj hother
    exact ⟨hfault, hmakes.files⟩
  · obtain ⟨place, hlocate, hfiles, hkeeps, hparents⟩ := write_ok_files hrun
    exact ⟨(by rintro failure ⟨⟩), fun _ => ⟨place, hlocate, hfiles⟩, hkeeps, hparents⟩

/-- In a world with no files, a write leaves one file, and none if it is refused. -/
theorem write_all_or_nothing_bare :
    let run (refusal : Option String) :=
      (write ⟨⟨"", ["store"]⟩⟩ ⟨"a", by decide⟩ (.keychain "")).runOn
        { World.bare with replaceRefusal := refusal }
    ((run none).1 = .ok () ∧ ∃ place, ∀ other octets,
      (run none).2.files.get? other = some (.file octets) ↔
        other = place ∧ octets = Text.Utf8.encode (document (.keychain ""))) ∧
    ((run (some "denied")).1 ≠ .ok () ∧ ∀ other octets,
      (run (some "denied")).2.files.get? other ≠ some (.file octets)) := by
  have hbare : ∀ other octets, World.bare.files.get? other ≠ some (.file octets) := by
    intro other octets h
    rw [FileTree.get?] at h
    split at h <;> cases h
  intro run
  refine ⟨?_, ?_⟩
  · obtain ⟨hwritable, -, -, hsucceeds, -⟩ :=
      write_all_or_nothing ⟨⟨"", ["store"]⟩⟩ ⟨"a", by decide⟩ (.keychain "") .bare
    have hrun : (run none).1 = .ok () := hwritable.2
      ((Keeps.fresh isFresh_bare fun _ => rfl).isWritable ⟨"a", by decide⟩ (by decide) rfl)
    obtain ⟨place, -, hfiles⟩ := hsucceeds hrun
    refine ⟨hrun, place, fun other octets => (hfiles other octets).trans ?_⟩
    by_cases hother : other = place <;> simp [hother, hbare]
  · obtain ⟨hwritable, -, hfails, -, -⟩ :=
      write_all_or_nothing ⟨⟨"", ["store"]⟩⟩ ⟨"a", by decide⟩ (.keychain "")
        { World.bare with replaceRefusal := some "denied" }
    have hrun : (run (some "denied")).1 ≠ .ok () := fun h => by
      cases (hwritable.1 h).unrefused
    cases hresult : (run (some "denied")).1 with
    | ok done => exact absurd hresult hrun
    | error failure =>
      refine ⟨by simp, fun other octets h => ?_⟩
      exact hbare other octets (((hfails failure hresult).2 other octets).1 h)

end NamedKeys.Store
