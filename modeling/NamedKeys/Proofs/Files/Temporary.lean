import NamedKeys.Proofs.Files.Tree
import NamedKeys.Proofs.Frame
import NamedKeys.Proofs.Text.Utf8

/-!
# Temporary files

A temporary file is new in its folder and holds what it is made with (`isMadeIn_freshName`).  Whatever is done
while it is there, it is not there afterwards, and all else is as it was left (`runOn_discard`); the result is
that of what was done, unless a folder has been put in the place of the file:

    temp_file_ends_with_body
-/

namespace NamedKeys

namespace FileTree

theorem freshName_free (tree : FileTree) (place : Place) :
    tree.get? (place ++ [tree.freshName place]) = none := by
  have := tree.freshName_not_mem place
  rwa [mem_namesIn, not_not] at this

end FileTree

namespace Action

/-! ## Steps -/

theorem runOn_setFiles (files : FileTree) (world : World) :
    (setFiles files).runOn world = (.ok (), { world with files }) := rfl

theorem runOn_files (world : World) : files.runOn world = (.ok world.files, world) := rfl

@[simp] theorem runOn_ofFiles_ok {α : Type} (a : α) (world : World) :
    (ofFiles (.ok a)).runOn world = (.ok a, world) := rfl

@[simp] theorem runOn_ofFiles_error {α : Type} (fault : FileFault) (world : World) :
    (ofFiles (.error fault) : Action α).runOn world = (.error (.file fault), world) := rfl

theorem runOn_replace_refused {source : Place} {path : Path} {world : World} {text : String}
    (h : world.replaceRefusal = some text) :
    (replace source path).runOn world = (.error (.file (.refused text)), world) := by
  rw [replace, runOn_bind, runOn_get]
  dsimp only
  rw [h]
  rfl

theorem runOn_replace {source : Place} {path : Path} {world : World}
    (h : world.replaceRefusal = none) :
    (replace source path).runOn world =
      match world.files.moveFile source world.folder path with
      | .ok tree => (.ok (), { world with files := tree })
      | .error fault => (.error (.file fault), world) := by
  rw [replace, runOn_bind, runOn_get]
  dsimp only
  rw [h]
  dsimp only
  rw [runOn_bind]
  cases world.files.moveFile source world.folder path with
  | ok tree => rw [runOn_ofFiles_ok, ← h]; rfl
  | error fault => rfl

/-- The file at a place is removed, if there is one; a folder is refused. -/
theorem runOn_discard (place : Place) (world : World) :
    (discard place).runOn world =
      match world.files.get? place with
      | some .folder => (.error (.file .isFolder), world)
      | some (.file _) => (.ok (), { world with files := world.files.erase place })
      | none => (.ok (), world) := by
  rw [discard, runOn_bind, runOn_files]
  dsimp only
  rw [FileTree.removeFile]
  rcases world.files.get? place with _ | _ | octets <;> rfl

def withNewFile (world : World) (folder : Place) (content : TempContent) : World :=
  { world with files :=
      world.files.set (folder ++ [world.files.freshName folder]) (.file content.written) }

/-- An action runs where its temporary file is, which is removed from where the action ends. -/
theorem runOn_withTempFile {α : Type} (folder : Place) (content : TempContent) (body : Place → Action α)
    (world : World) {place : Place} (hplace : place = folder ++ [world.files.freshName folder]) :
    (withTempFile folder content body).runOn world =
      match (discard place).runOn ((body place).runOn (withNewFile world folder content)).2 with
      | (.ok _, after) => (((body place).runOn (withNewFile world folder content)).1, after)
      | (.error failure, after) => (.error failure, after) := by
  have hmake : (makeTempFile folder content).runOn world =
      (.ok place, withNewFile world folder content) := by
    rw [hplace]
    rfl
  rw [withTempFile]
  exact (runOn_bind_ok hmake).trans (runOn_thenAlways _ _ _)

end Action

/-! ## What is found, and what is left -/

namespace TempContent

/-- Octets hold a content: none hold nothing, and those of its UTF-8 hold a text. -/
inductive IsHeldBy : TempContent → List UInt8 → Prop
  | nothing : IsHeldBy .nothing []
  | text (text : List Char) : IsHeldBy (.text text) (String.ofList text).toUTF8.data.toList
  | octets (given : List UInt8) : IsHeldBy (.octets given) given

theorem isHeldBy_written (content : TempContent) : content.IsHeldBy content.written := by
  cases content with
  | nothing => exact .nothing
  | text chars =>
    have htext := Text.Utf8.encode_toList (String.ofList chars)
    rw [String.toList_ofList] at htext
    rw [written, htext]
    exact .text chars
  | octets given => exact .octets given

end TempContent

/-- In a second world there is one file more than in a first: it is new in a folder and holds a content. -/
structure IsMadeIn (folder : Place) (content : TempContent) (world : World) (place : Place)
    (inside : World) : Prop where
  inFolder : ∃ name, name ∉ world.files.namesIn folder ∧ place = folder ++ [name]
  isNew : world.files.get? place = none
  holds : ∃ octets, content.IsHeldBy octets ∧ inside.files.get? place = some (.file octets)
  others : ∀ other, other ≠ place → inside.files.get? other = world.files.get? other
  rest : inside = { world with files := inside.files }

theorem isMadeIn_freshName (folder : Place) (content : TempContent) (world : World) :
    IsMadeIn folder content world (folder ++ [world.files.freshName folder])
      (Action.withNewFile world folder content) where
  inFolder := ⟨_, world.files.freshName_not_mem folder, rfl⟩
  isNew := world.files.freshName_free folder
  holds := ⟨_, content.isHeldBy_written, FileTree.get?_set_self _ (by simp)⟩
  others _ hother := FileTree.get?_set_of_ne _ hother
  rest := rfl

/-- A second world is a first without the file at a place, if there is one. -/
structure IsWithoutFile (place : Place) (world after : World) : Prop where
  gone : ∀ octets, after.files.get? place ≠ some (.file octets)
  others : ∀ other, other ≠ place → after.files.get? other = world.files.get? other
  rest : after = { world with files := after.files }

theorem isWithoutFile_of_none {place : Place} {world : World}
    (h : ∀ octets, world.files.get? place ≠ some (.file octets)) : IsWithoutFile place world world :=
  ⟨h, fun _ _ => rfl, rfl⟩

theorem isWithoutFile_erase {place : Place} (hplace : place ≠ []) (world : World) :
    IsWithoutFile place world { world with files := world.files.erase place } where
  gone octets := by
    dsimp only
    rw [FileTree.get?_erase_self hplace]
    exact nofun
  others _ hother := FileTree.get?_erase_of_ne hother
  rest := rfl

/-- For a body there is a new file in the folder that holds the content, and all else is as it was.  Once the
body has ended, in whatever way, there is no such file, and all else is as the body has left it.  The result is
that of the body, be it a value or a failure, also if the body has removed the file or moved it elsewhere; only
a folder that the body has put in the place of the file is refused. -/
theorem temp_file_ends_with_body (folder : Place) (content : TempContent) (world : World) :
    ∃ place inside, IsMadeIn folder content world place inside ∧
      ∀ {α : Type} (body : Place → Action α),
        let ended := (body place).runOn inside
        let left := (Action.withTempFile folder content body).runOn world
        IsWithoutFile place ended.2 left.2 ∧
        (ended.2.files.get? place ≠ some .folder → left.1 = ended.1) ∧
        (ended.2.files.get? place = some .folder → left = (.error (.file .isFolder), ended.2)) := by
  refine ⟨_, _, isMadeIn_freshName folder content world, fun {α} body => ?_⟩
  dsimp only
  have hplace := FileTree.ne_root_of_none (world.files.freshName_free folder)
  rw [Action.runOn_withTempFile folder content body world rfl, Action.runOn_discard]
  generalize (body _).runOn _ = ended
  cases hleft : ended.2.files.get? (folder ++ [world.files.freshName folder]) with
  | none =>
    refine ⟨isWithoutFile_of_none fun octets => ?_, fun _ => rfl, nofun⟩
    rw [hleft]
    exact nofun
  | some entry =>
    cases entry with
    | folder =>
      refine ⟨isWithoutFile_of_none fun octets => ?_, fun hfolder => absurd rfl hfolder, fun _ => rfl⟩
      rw [hleft]
      exact nofun
    | file octets =>
      exact ⟨isWithoutFile_erase hplace ended.2, fun _ => rfl, nofun⟩

/-- A file that is moved over another one before a failure stays there, and the failure is the result. -/
theorem temp_file_ends_with_body_moved :
    let world := { World.bare with files := FileTree.empty.set ["a"] (.file [1]) }
    let body (place : Place) : Action Unit := do
      Action.replace place ⟨"/", ["a"]⟩
      throw .notText
    let left := (Action.withTempFile [] (.text ['é']) body).runOn world
    left.1 = .error .notText ∧ left.2.files.get? ["a"] = some (.file [0xC3, 0xA9]) := by
  intro world body left
  obtain ⟨place, inside, hmade, hbody⟩ := temp_file_ends_with_body [] (.text ['é']) world
  obtain ⟨octets, hheld, hholds⟩ := hmade.holds
  have hoctets : octets = [0xC3, 0xA9] := by
    cases hheld
    decide
  have hne : place ≠ ["a"] := by
    rintro rfl
    have hfree := hmade.isNew
    cases hfree
  have htarget : inside.files.get? ["a"] = some (.file [1]) := by
    rw [hmade.others _ (Ne.symm hne)]
    rfl
  have hmoved : inside.files.moveFile place inside.folder ⟨"/", ["a"]⟩ =
      .ok ((inside.files.erase place).set ["a"] (.file octets)) := by
    have hlocate : inside.files.locate inside.folder ⟨"/", ["a"]⟩ = .ok ["a"] := rfl
    rw [FileTree.moveFile, hlocate, ok_bind, hholds, htarget]
  have hrefuses : inside.replaceRefusal = none := by
    rw [hmade.rest]
    rfl
  have hended : (body place).runOn inside =
      (.error .notText, { inside with
        files := (inside.files.erase place).set ["a"] (.file octets) }) := by
    rw [Action.runOn_bind_ok ((Action.runOn_replace hrefuses).trans (by rw [hmoved]))]
    rfl
  obtain ⟨hleft, hresult, -⟩ := hbody body
  have hgone : ((body place).runOn inside).2.files.get? place ≠ some .folder := by
    rw [hended, FileTree.get?_set_of_ne _ hne, FileTree.get?_erase_self (by rintro rfl; cases hmade.isNew)]
    exact nofun
  refine ⟨(hresult hgone).trans (by rw [hended]), ?_⟩
  rw [hleft.others _ (Ne.symm hne), hended, ← hoctets]
  exact FileTree.get?_set_self _ (by decide)

end NamedKeys
