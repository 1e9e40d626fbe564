import Mathlib.Logic.Function.Iterate
import NamedKeys.Proofs.CommandLine.Intact

/-!
# The nearest store

The folders that are looked at are a folder, its parent, the parent of that and so on, up to one that is its
own parent (`upwards_eq`), and the search goes from one to the next (`findAmong_upwards`).  It finds the
first that holds a store unless the root of a repository comes before (`IsNearest`), and nothing if there is
no such folder:

    nearest_store_found

The file system refuses to look only where a name is too long (`fault_of_entryAt_child`).
-/

namespace NamedKeys

open NamedKeys.Action

/-! ## Parents -/

namespace Path

theorem iterate_parent (path : Path) (n : Nat) :
    parent^[n] path = { path with names := path.names.take (path.names.length - n) } := by
  induction n with
  | zero => rw [Function.iterate_zero_apply, Nat.sub_zero, List.take_length]
  | succ n ih =>
    rw [Function.iterate_succ_apply', ih, parent, List.dropLast_eq_take, List.take_take,
      List.length_take]
    congr 2
    omega

theorem parent_eq_self_iff {path : Path} : path.parent = path ↔ path.names = [] := by
  obtain ⟨anchor, names⟩ := path
  rw [parent, Path.mk.injEq]
  constructor
  · rintro ⟨-, h⟩
    have hlength := congrArg List.length h
    rw [List.length_dropLast] at hlength
    dsimp only at hlength ⊢
    exact List.length_eq_zero_iff.1 (by omega)
  · intro h
    dsimp only at h
    rw [h]
    exact ⟨rfl, rfl⟩

theorem length_parent {path : Path} (h : path.parent ≠ path) :
    path.names.length = path.parent.names.length + 1 := by
  have := List.length_pos_iff.2 fun hnil => h (parent_eq_self_iff.2 hnil)
  rw [parent, List.length_dropLast]
  omega

/-- The parents of a path end at one that is its own parent, and not before. -/
theorem parent_iterate_eq_self_iff {path : Path} {n : Nat} :
    (parent^[n] path).parent = parent^[n] path ↔ path.names.length ≤ n := by
  rw [parent_eq_self_iff, iterate_parent, ← List.length_eq_zero_iff, List.length_take]
  omega

end Path

namespace StoreLocation

theorem upwards_eq (path : Path) :
    upwards path = (List.range (path.names.length + 1)).map (Path.parent^[·] path) := by
  rw [upwards]
  exact List.map_congr_left fun n _ => (path.iterate_parent n).symm

/-- Above a folder that is not its own parent is its parent, with what is above that. -/
theorem upwards_cons (path : Path) :
    upwards path = path :: if path.parent = path then [] else upwards path.parent := by
  have hfirst : upwards path =
      path :: (List.range path.names.length).map (Path.parent^[·] path.parent) := by
    rw [upwards_eq, List.range_succ_eq_map, List.map_cons, List.map_map, Function.iterate_zero_apply]
    rfl
  rw [hfirst]
  split
  · next hself => rw [Path.parent_eq_self_iff.1 hself, List.length_nil, List.range_zero, List.map_nil]
  · next hother =>
    rw [upwards_eq path.parent, Path.length_parent hother]

/-! ## The search -/

variable {world : World} {path : Path}

def IsStore (world : World) (path : Path) : Prop :=
  world.files.isFolder world.folder (path.child localName) = .ok true

def IsRepository (world : World) (path : Path) : Prop :=
  ∃ mark, world.files.entryAt world.folder (path.child repositoryMark) = .ok (some mark)

/-- The `n`-th folder above a first one is the nearest that holds a store, and no folder before it is the
root of a repository. -/
structure IsNearest (world : World) (first : Path) (n : Nat) : Prop where
  isStore : IsStore world (Path.parent^[n] first)
  before : ∀ m < n, ¬ IsStore world (Path.parent^[m] first) ∧
    ¬ IsRepository world (Path.parent^[m] first)

theorem isNearest_zero_iff : IsNearest world path 0 ↔ IsStore world path :=
  ⟨fun h => h.isStore, fun h => ⟨h, fun _ hm => absurd hm (Nat.not_lt_zero _)⟩⟩

theorem isNearest_succ_iff {n : Nat} :
    IsNearest world path (n + 1) ↔
      (¬ IsStore world path ∧ ¬ IsRepository world path) ∧ IsNearest world path.parent n := by
  constructor
  · rintro ⟨hstore, hbefore⟩
    exact ⟨hbefore 0 (Nat.succ_pos n), hstore, fun m hm => hbefore (m + 1) (Nat.succ_lt_succ hm)⟩
  · rintro ⟨hfirst, hstore, hbefore⟩
    refine ⟨hstore, fun m hm => ?_⟩
    cases m with
    | zero => exact hfirst
    | succ m => exact hbefore m (Nat.lt_of_succ_lt_succ hm)

/-- The search looks at a folder for a store and for the mark of a repository, and goes on with the parent
unless the folder is its own parent. -/
theorem findAmong_upwards (path : Path) :
    findAmong (upwards path) = (do
      let world ← get
      if ← ofFiles (world.files.isFolder world.folder (path.child localName)) then
        return some (path.child localName)
      else if (← ofFiles (world.files.entryAt world.folder (path.child repositoryMark))).isSome then
        log .debug
          ("Reached the git root folder without finding a " ++ Text.quoted localName ++ " folder.")
        return none
      else if path.parent = path then return none
      else findAmong (upwards path.parent)) := by
  conv_lhs => rw [upwards_cons, findAmong]
  split
  · next hself => simp only [findAmong]
  · rfl

/-- The file system can look below a path: it leads to a folder, or none of its names is too long. -/
def Fits (world : World) (path : Path) : Prop :=
  world.files.isFolder world.folder path = .ok true ∨
    ∀ name ∈ path.names, name.utf8ByteSize ≤ FileTree.longestName

theorem Fits.parent (h : Fits world path) : Fits world path.parent := by
  rcases List.eq_nil_or_concat path.names with hnil | ⟨above, name, hnames⟩
  · rwa [Path.parent_eq_self_iff.2 hnil]
  · have hchild : path = path.parent.child name := by
      rw [Path.child, Path.parent, hnames, List.concat_eq_append, List.dropLast_concat,
        ← List.concat_eq_append, ← hnames]
    rcases h with hfolder | hshort
    · obtain ⟨place, hlocate, -⟩ := FileTree.hasFolder_of_isFolder hfolder
      rw [hchild] at hlocate
      exact .inl (FileTree.hasFolder_of_child hlocate).isFolder
    · exact .inr fun other hother => hshort other (List.dropLast_subset _ hother)

/-- What is looked for below a folder is there or not, unless a name is too long. -/
theorem fault_of_entryAt_child {name : String} {fault : FileFault} (hname : FileTree.IsEntryName name)
    (h : world.files.entryAt world.folder (path.child name) = .error fault) :
    fault = .nameTooLong ∧ ¬ Fits world path := by
  obtain ⟨rfl, other, hother, hlong⟩ := FileTree.entryAt_error h
  refine ⟨rfl, ?_⟩
  rintro (hfolder | hshort)
  · obtain ⟨place, hlocate, hplace⟩ := FileTree.hasFolder_of_isFolder hfolder
    rw [FileTree.entryAt_of_locate (FileTree.locate_entry hlocate hplace hname)] at h
    cases h
  · rcases List.mem_append.1 hother with hother | hother
    · exact absurd (hshort other hother) (Nat.not_le.2 hlong)
    · rw [List.mem_singleton.1 hother] at hlong
      exact absurd hname.short (Nat.not_le.2 hlong)

/-! ## What is found -/

/-- What the search comes to from a folder on. -/
inductive Finds (world : World) (path : Path) : Except Failure (Option Path) → Prop
  | nearest {n : Nat} (h : IsNearest world path n) :
    Finds world path (.ok (some ((Path.parent^[n] path).child localName)))
  | nothing (h : ∀ n, ¬ IsNearest world path n) : Finds world path (.ok none)
  | refused (h : ¬ Fits world path) : Finds world path (.error (.file .nameTooLong))

/-- What is found from the parent on is found from the folder on, if nothing there ends the search. -/
theorem Finds.of_parent {result : Except Failure (Option Path)}
    (hstore : ¬ IsStore world path) (hrepository : ¬ IsRepository world path)
    (h : Finds world path.parent result) : Finds world path result := by
  cases h with
  | nearest h => exact .nearest (isNearest_succ_iff.2 ⟨⟨hstore, hrepository⟩, h⟩)
  | nothing h =>
    refine .nothing fun n hn => ?_
    cases n with
    | zero => exact hstore (isNearest_zero_iff.1 hn)
    | succ n => exact h n (isNearest_succ_iff.1 hn).2
  | refused h => exact .refused fun hfits => h hfits.parent

/-- A repository without a store ends the search. -/
theorem Finds.of_isRepository (hstore : ¬ IsStore world path) (hrepository : IsRepository world path) :
    Finds world path (.ok none) := by
  refine .nothing fun n hn => ?_
  cases n with
  | zero => exact hstore (isNearest_zero_iff.1 hn)
  | succ n => exact (isNearest_succ_iff.1 hn).1.2 hrepository

/-- And so does a path that is its own parent. -/
theorem Finds.of_parent_eq_self (hstore : ¬ IsStore world path) (hself : path.parent = path) :
    Finds world path (.ok none) := by
  refine .nothing fun n hn => hstore ?_
  have := hn.isStore
  rwa [Function.iterate_fixed hself] at this

theorem isEntryName_localName : FileTree.IsEntryName localName :=
  ⟨by decide, by decide⟩

theorem isEntryName_repositoryMark : FileTree.IsEntryName repositoryMark :=
  ⟨by decide, by decide⟩

theorem finds_findAmong (world : World) (path : Path) :
    Finds world path ((findAmong (upwards path)).runOn world).1 := by
  rw [findAmong_upwards, runOn_bind_ok (runOn_get world)]
  cases hfound : world.files.isFolder world.folder (path.child localName) with
  | error fault =>
    obtain ⟨rfl, hlong⟩ := fault_of_entryAt_child isEntryName_localName (FileTree.isFolder_error hfound)
    exact .refused hlong
  | ok found =>
    rw [runOn_bind_ok (runOn_ofFiles_ok found world)]
    cases found with
    | true => exact .nearest (n := 0) (isNearest_zero_iff.2 hfound)
    | false =>
      have hstore : ¬ IsStore world path := by
        rw [IsStore, hfound]
        decide
      rw [if_neg Bool.false_ne_true]
      cases hmark : world.files.entryAt world.folder (path.child repositoryMark) with
      | error fault =>
        obtain ⟨rfl, hlong⟩ := fault_of_entryAt_child isEntryName_repositoryMark hmark
        exact .refused hlong
      | ok mark =>
        rw [runOn_bind_ok (runOn_ofFiles_ok mark world)]
        cases mark with
        | some mark => exact .of_isRepository hstore ⟨mark, hmark⟩
        | none =>
          have hrepository : ¬ IsRepository world path := by
            rintro ⟨mark, hsome⟩
            rw [hmark] at hsome
            cases hsome
          rw [if_neg (by decide)]
          split
          · next hself => exact .of_parent_eq_self hstore hself
          · next hother =>
            have hlength := Path.length_parent hother
            exact (finds_findAmong world path.parent).of_parent hstore hrepository
termination_by path.names.length
decreasing_by omega

/-- Only one folder is the nearest. -/
theorem IsNearest.unique {n m : Nat} (hn : IsNearest world path n) (hm : IsNearest world path m) :
    n = m := by
  rcases Nat.lt_trichotomy n m with hlt | rfl | hlt
  · exact absurd hn.isStore (hm.before n hlt).1
  · rfl
  · exact absurd hm.isStore (hn.before m hlt).1

/-- Where names fit, the search finds the nearest store. -/
theorem Finds.of_isNearest {result : Except Failure (Option Path)} {n : Nat}
    (h : Finds world path result) (hfits : Fits world path) (hn : IsNearest world path n) :
    result = .ok (some ((Path.parent^[n] path).child localName)) := by
  cases h with
  | nearest hm => rw [hn.unique hm]
  | nothing hnone => exact absurd hn (hnone n)
  | refused hlong => exact absurd hfits hlong

/-- And it finds nothing if there is none. -/
theorem Finds.of_none {result : Except Failure (Option Path)} (h : Finds world path result)
    (hfits : Fits world path) (hnone : ∀ n, ¬ IsNearest world path n) : result = .ok none := by
  cases h with
  | nearest hn => exact absurd hn (hnone _)
  | nothing => rfl
  | refused hlong => exact absurd hfits hlong

/-! ## The store to use -/

/-- The same world but for the log and the random octets to come. -/
def SameButNotes (world after : World) : Prop :=
  ∃ log randomness, after = { world with log, randomness }

instance : World.IsQuietFrame SameButNotes where
  refl world := ⟨_, _, rfl⟩
  trans := by
    rintro world _ _ ⟨log, randomness, rfl⟩ ⟨log', randomness', rfl⟩
    exact ⟨log', randomness', rfl⟩
  quiet _ log randomness := ⟨log, randomness, rfl⟩

theorem runOn_find?_fst (start : Option Path) (world : World) :
    ((find? start).runOn world).1 =
      ((findAmong (upwards (start.getD (currentFolder world)))).runOn world).1 := by
  rw [find?, runOn_bind_ok (runOn_get world)]

/-- The store to use is the one that the search finds, or else that of the user. -/
theorem runOn_resolve_fst (world : World) :
    ((resolve false none).runOn world).1 =
      ((find? none).runOn world).1.map (·.getD (ofUser world)) := by
  have hsame : SameButNotes world ((find? none).runOn world).2 := by
    have hkeeps : Keeps SameButNotes (find? none) := keeps_get.bind fun _ => keeps_findAmong _
    exact hkeeps world
  rw [resolve]
  dsimp only
  rw [if_neg Bool.false_ne_true]
  rcases hrun : (find? none).runOn world with ⟨failure | found, after⟩
  · rw [runOn_bind_error hrun]
    rfl
  · rw [hrun] at hsame
    obtain ⟨log, randomness, rfl⟩ := hsame
    rw [runOn_bind_ok hrun]
    rfl

/-- The folders above a path are its parents, up to one that is its own parent.  From a path that leads to a
folder, or has no name that is too long, the search finds the store of the first of them that holds one, if
no folder before it is the root of a repository, and else nothing; from any other path it may also be
refused.  The store to use is the one that is given, or else the one that the search finds from the current
folder, unless that of the user is wanted, or else that of the user. -/
theorem nearest_store_found :
    (∀ path : Path,
      upwards path = (List.range (path.names.length + 1)).map (Path.parent^[·] path) ∧
      ∀ n, (Path.parent^[n] path).parent = Path.parent^[n] path ↔ path.names.length ≤ n) ∧
    (∀ (world : World) (start : Option Path),
      let first := start.getD (currentFolder world)
      (Fits world first →
        (∀ n, IsNearest world first n →
          ((find? start).runOn world).1 = .ok (some ((Path.parent^[n] first).child localName))) ∧
        ((∀ n, ¬ IsNearest world first n) → ((find? start).runOn world).1 = .ok none)) ∧
      ∀ failure, ((find? start).runOn world).1 = .error failure →
        failure = .file .nameTooLong ∧ ¬ Fits world first) ∧
    ∀ world : World,
      (∀ useGlobal path, ((resolve useGlobal (some path)).runOn world).1 = .ok path) ∧
      ((resolve true none).runOn world).1 = .ok (ofUser world) ∧
      (Fits world (currentFolder world) →
        (∀ n, IsNearest world (currentFolder world) n →
          ((resolve false none).runOn world).1 =
            .ok ((Path.parent^[n] (currentFolder world)).child localName)) ∧
        ((∀ n, ¬ IsNearest world (currentFolder world) n) →
          ((resolve false none).runOn world).1 = .ok (ofUser world))) := by
  refine ⟨fun path => ⟨upwards_eq path, fun n => Path.parent_iterate_eq_self_iff⟩,
    fun world start => ?_, fun world => ⟨fun useGlobal path => rfl, rfl, fun hfits => ?_⟩⟩
  · have hfinds := finds_findAmong world (start.getD (currentFolder world))
    rw [← runOn_find?_fst] at hfinds
    refine ⟨fun hfits => ⟨fun n hn => hfinds.of_isNearest hfits hn, hfinds.of_none hfits⟩,
      fun failure hfailure => ?_⟩
    rw [hfailure] at hfinds
    cases hfinds with
    | refused hlong => exact ⟨rfl, hlong⟩
  · have hfinds := finds_findAmong world (currentFolder world)
    have hfind := runOn_find?_fst none world
    rw [Option.getD_none] at hfind
    rw [runOn_resolve_fst, hfind]
    constructor
    · intro n hn
      rw [hfinds.of_isNearest hfits hn]
      rfl
    · intro hnone
      rw [hfinds.of_none hfits hnone]
      rfl

/-- A world with a project that is a repository and holds a store, where the current folder is one of the
project's. -/
def inProject : World where
  __ := World.bare
  files := ⟨[(["project"], .folder), (["project", ".git"], .folder), (["project", ".identities"], .folder),
    (["project", "src"], .folder), (["project", "src", ".identities"], .file [])]⟩
  folder := ["project", "src"]

/-- From a folder with a file of the name of a store, the store beside the mark of the repository is found. -/
theorem nearest_store_found_above :
    Fits inProject (currentFolder inProject) ∧ IsNearest inProject (currentFolder inProject) 1 ∧
      ((find? none).runOn inProject).1 = .ok (some ⟨"/", ["project", ".identities"]⟩) ∧
      ((resolve false none).runOn inProject).1 = .ok ⟨"/", ["project", ".identities"]⟩ := by
  have hfits : Fits inProject (currentFolder inProject) := .inl (by decide)
  have hnearest : IsNearest inProject (currentFolder inProject) 1 := by
    refine isNearest_succ_iff.2 ⟨⟨?_, ?_⟩, isNearest_zero_iff.2 ?_⟩
    · unfold IsStore
      decide
    · rintro ⟨mark, hmark⟩
      have hnone : inProject.files.entryAt inProject.folder
          ((currentFolder inProject).child repositoryMark) = .ok none := by decide
      rw [hnone] at hmark
      cases hmark
    · unfold IsStore
      decide
  refine ⟨hfits, hnearest, ?_, ?_⟩
  · exact ((nearest_store_found.2.1 inProject none).1 hfits).1 1 hnearest
  · exact ((nearest_store_found.2.2 inProject).2.2 hfits).1 1 hnearest

end StoreLocation

end NamedKeys
