import NamedKeys.Proofs.CommandLine.Namespace
import NamedKeys.Proofs.Store.Map

/-!
# One language of names

A text is taken as the name of an identity wherever one is given, or nowhere, and it is taken exactly if it
has 1 to 250 letters, digits, hyphens and low lines, which one line feed may end (`isNameForm_iff_isNameText`).
Where it is refused, nothing is read and nothing changes.  So every new file has the name of the file of such
a name (`World.NamesFiles`), which has 255 octets at most unless the name is the longest one with a line feed:

    one_language_of_names
-/

namespace NamedKeys

open NamedKeys.Action

/-! ## The language -/

/-- A letter or a digit of ASCII, a hyphen or a low line. -/
def IsNameLetter (c : Char) : Prop :=
  ('A' ≤ c ∧ c ≤ 'Z') ∨ ('a' ≤ c ∧ c ≤ 'z') ∨ ('0' ≤ c ∧ c ≤ '9') ∨ c = '-' ∨ c = '_'

/-- 1 to 250 letters, digits, hyphens and low lines. -/
def IsPlainName (cs : List Char) : Prop :=
  1 ≤ cs.length ∧ cs.length ≤ 250 ∧ ∀ c ∈ cs, IsNameLetter c

/-- A text that is a plain name, or one and a line feed. -/
def IsNameText (text : String) : Prop :=
  ∃ body, IsPlainName body ∧ (text.toList = body ∨ text.toList = body ++ ['\n'])

theorem isNameChar_iff {c : Char} : isNameChar c = true ↔ IsNameLetter c := by
  have hranges : isNameChar c = (((decide (c.val ≥ 65 ∧ c.val ≤ 90) || (c.val ≥ 97 && c.val ≤ 122)) ||
      (c.val ≥ 48 && c.val ≤ 57)) || c = '-' || c = '_') := rfl
  have hletter : IsNameLetter c ↔ (65 ≤ c.val ∧ c.val ≤ 90) ∨ (97 ≤ c.val ∧ c.val ≤ 122) ∨
      (48 ≤ c.val ∧ c.val ≤ 57) ∨ c = '-' ∨ c = '_' := Iff.rfl
  rw [hranges, hletter]
  simp only [Bool.or_eq_true, Bool.and_eq_true, decide_eq_true_eq, ge_iff_le, or_assoc]

theorem isNameBody_iff {cs : List Char} : IsNameBody cs ↔ IsPlainName cs := by
  constructor
  · rintro ⟨hne, hshort, hchars⟩
    exact ⟨List.length_pos_iff.2 hne, hshort, fun c hc => isNameChar_iff.1 (hchars c hc)⟩
  · rintro ⟨hpos, hshort, hletters⟩
    exact ⟨List.length_pos_iff.1 hpos, hshort, fun c hc => isNameChar_iff.2 (hletters c hc)⟩

theorem isNameForm_iff_isNameText {text : String} :
    isNameForm text.toList = true ↔ IsNameText text := by
  rw [isNameForm_iff]
  constructor
  · intro hbody
    exact ⟨_, isNameBody_iff.1 hbody, bodyOf_cases text.toList⟩
  · rintro ⟨body, hplain, htext⟩
    have hbody := isNameBody_iff.2 hplain
    rcases htext with htext | htext
    · rwa [htext, hbody.bodyOf_eq]
    · rwa [bodyOf, htext, if_pos List.getLast?_concat, List.dropLast_concat]

theorem not_isPlainName_feed (body : List Char) : ¬ IsPlainName (body ++ ['\n']) := by
  rintro ⟨-, -, hletters⟩
  have hfeed := isNameChar_iff.2 (hletters '\n' (List.mem_append_right body (List.mem_singleton_self _)))
  exact absurd hfeed (by decide)

/-- The texts of names are the plain names, but for those with a line feed. -/
theorem isNameText_iff_isPlainName_iff {text : String} : (IsNameText text ↔ IsPlainName text.toList) ↔
    ∀ body, IsPlainName body → text.toList ≠ body ++ ['\n'] := by
  constructor
  · intro hiff body hplain hfeed
    have htext : IsPlainName text.toList := hiff.1 ⟨body, hplain, .inr hfeed⟩
    rw [hfeed] at htext
    exact not_isPlainName_feed body htext
  · intro hnone
    constructor
    · rintro ⟨body, hplain, hbody | hfeed⟩
      · rwa [hbody]
      · exact absurd hfeed (hnone body hplain)
    · exact fun hplain => ⟨_, hplain, .inl rfl⟩

theorem IdentityName.isNameText (name : IdentityName) : IsNameText name.text :=
  isNameForm_iff_isNameText.1 name.hasForm

theorem IdentityName.ofText_text (name : IdentityName) : ofText name.text = .ok name :=
  dif_pos name.hasForm

theorem IdentityName.ofText_error {text : String} (h : ¬ IsNameText text) :
    ofText text = .error (.identityName text) :=
  dif_neg fun hform => h (isNameForm_iff_isNameText.1 hform)

/-! ## Where a name is given -/

def Generate.Request.named (text : String) : Generate.Request :=
  ⟨text, none, false, false, false, none, false, false⟩

theorem CommandLine.Given.asName_text (text : String) :
    (Given.text text).asName = (IdentityName.ofText text).mapError Failure.message := by
  have hasked : (Given.text text).asText = .ok text := rfl
  rw [asName, hasked]
  dsimp only [bind, Except.bind]
  cases IdentityName.ofText text <;> rfl

/-- The text of a name is taken as this name wherever a name is given. -/
structure IdentityName.IsTaken (name : IdentityName) : Prop where
  test : ofText name.text = .ok name
  parameter : (CommandLine.Given.text name.text).asName = .ok name
  options : ∃ options, Generate.Options.ofRequest (.named name.text) = .ok options ∧ options.name = name
  request : ∀ request : Generate.Request, request.name = name.text →
    Generate.Options.ofRequest request ≠ .error (.identityName name.text)
  operation : ∀ {α : Type} (operation : IdentityName → Action α),
    Store.named name.text operation = operation name

/-- A text is refused wherever a name is given, and the world stays as it is. -/
structure IsRefusedName (text : String) : Prop where
  test : IdentityName.ofText text = .error (.identityName text)
  parameter : (CommandLine.Given.text text).asName = .error (Failure.message (.identityName text))
  options : ∀ request : Generate.Request, request.name = text →
    Generate.Options.ofRequest request = .error (.identityName text)
  generation : ∀ (request : Generate.Request) (store : Store) (keychain : Option Keychain)
    (funder : Option Funder) (world : World), request.name = text →
    (request.run store keychain funder).runOn world = (.error (.identityName text), world)
  operation : ∀ {α : Type} (operation : IdentityName → Action α) (world : World),
    (Store.named text operation).runOn world = (.error (.identityName text), world)

theorem Generate.ofRequest_of_name_error {request : Request} {failure : Failure}
    (h : IdentityName.ofText request.name = .error failure) :
    Options.ofRequest request = .error failure := by
  rw [Options.ofRequest, h]
  rfl

theorem Generate.ofRequest_ne_identityName {request : Request} {name : IdentityName}
    (h : request.name = name.text) (text : String) :
    Options.ofRequest request ≠ .error (.identityName text) := by
  have hindex : checkIndex request.path ≠ .error (.identityName text) := by
    intro hrefused
    obtain ⟨index, -, -, hfailure⟩ := checkIndex_eq_error_iff.1 hrefused
    cases hfailure
  unfold Options.ofRequest
  rw [h, name.ofText_text]
  cases hpath : checkIndex request.path with
  | error failure =>
    intro herror
    obtain rfl : failure = .identityName text := Except.error.inj herror
    exact hindex hpath
  | ok index =>
    simp only [bind, Except.bind]
    split
    · rintro ⟨⟩
    · split <;> rintro ⟨⟩

theorem IdentityName.isTaken (name : IdentityName) : name.IsTaken where
  test := name.ofText_text
  parameter := by
    rw [CommandLine.Given.asName_text, name.ofText_text]
    rfl
  options := ⟨_, Generate.ofRequest_of_accepted rfl (fun text h => by cases h) rfl rfl, rfl⟩
  request _ hname := Generate.ofRequest_ne_identityName hname name.text
  operation operation := by
    rw [Store.named, name.ofText_text]
    rfl

theorem isRefusedName {text : String} (h : ¬ IsNameText text) : IsRefusedName text where
  test := IdentityName.ofText_error h
  parameter := by
    rw [CommandLine.Given.asName_text, IdentityName.ofText_error h]
    rfl
  options := by
    rintro request rfl
    exact Generate.ofRequest_of_name_error (IdentityName.ofText_error h)
  generation := by
    rintro request store keychain funder world rfl
    exact Generate.Request.run_of_error
      (Generate.ofRequest_of_name_error (IdentityName.ofText_error h)) store keychain funder world
  operation operation world := by
    rw [Store.named, IdentityName.ofText_error h]
    rfl

/-! ## The names of files -/

/-- The name of a file has one octet too many if the name of its identity is one of full length with a line
feed, and only then. -/
theorem Store.fileName_fits (name : IdentityName) :
    (fileName name.text).utf8ByteSize ≤ 256 ∧ ((fileName name.text).utf8ByteSize = 256 ↔
      ∃ body, IsPlainName body ∧ body.length = 250 ∧ name.text.toList = body ++ ['\n']) := by
  rw [utf8ByteSize_fileName name.hasForm]
  have hconcat : ∀ body, name.text.toList = body ++ ['\n'] →
      name.text.toList.length = body.length + 1 := by
    intro body htext
    rw [htext]
    exact List.length_append
  obtain ⟨body, hplain, htext⟩ := name.isNameText
  have hshort : body.length ≤ 250 := hplain.2.1
  have hfull : (∃ body, IsPlainName body ∧ body.length = 250 ∧
      name.text.toList = body ++ ['\n']) → name.text.toList.length + 5 = 256 := by
    rintro ⟨front, -, hlength, hfront⟩
    rw [hconcat front hfront, hlength]
  rcases htext with htext | htext
  · rw [htext] at hfull ⊢
    exact ⟨by omega, fun hlong => by omega, hfull⟩
  · have hlength := hconcat body htext
    exact ⟨by omega, fun hlong => ⟨body, hplain, by omega, htext⟩, hfull⟩

/-- Every file that is new or has changed has the name of the file of an identity. -/
def World.NamesFiles (world after : World) : Prop :=
  ∀ place octets, after.files.get? place = some (.file octets) →
    world.files.get? place = some (.file octets) ∨
      ∃ name : IdentityName, place.getLast? = some (Store.fileName name.text)

theorem World.NamesFiles.of_files {world after : World} (h : after.files = world.files) :
    NamesFiles world after := by
  intro place octets hplace
  rw [h] at hplace
  exact .inl hplace

theorem World.NamesFiles.trans {world middle after : World} (h : NamesFiles world middle)
    (h' : NamesFiles middle after) : NamesFiles world after := by
  intro place octets hplace
  rcases h' place octets hplace with hmiddle | hname
  · exact h place octets hmiddle
  · exact .inr hname

instance : World.IsRequestFrame World.NamesFiles where
  refl _ := .of_files rfl
  trans := World.NamesFiles.trans
  quiet _ _ _ := .of_files rfl
  requests _ _ _ := .of_files rfl

theorem World.NamesFiles.allowsAsking (entry : String) : AllowsAsking NamesFiles entry :=
  fun _ => .of_files rfl

theorem Keychain.allowsFilling_namesFiles (entry : String) :
    AllowsFilling World.NamesFiles entry :=
  fun keychain world octets => .of_files (keychain.sameFiles_putEntry world entry octets).files

namespace Store

variable (store : Store) (name : IdentityName)

theorem namesFiles_write (secret : Secret) : Action.Keeps World.NamesFiles (store.write name secret) := by
  intro world
  rcases hrun : (store.write name secret).runOn world with ⟨failure | ⟨⟩, after⟩
  · obtain ⟨-, -, hmakes⟩ := write_error hrun
    exact fun place octets hplace => .inl ((hmakes.files place octets).1 hplace)
  · obtain ⟨tree, folder, hmade, -, -, -, -, -, hafter⟩ := write_ok hrun
    have hmakes := world.files.ensureFolders_makesFolders world.folder store.folder
    rw [hmade] at hmakes
    intro place octets hplace
    dsimp only at hplace
    rw [hafter] at hplace
    by_cases heq : place = folder ++ [fileName name.text]
    · exact .inr ⟨name, by rw [heq, List.getLast?_concat]⟩
    · rw [FileTree.get?_set_of_ne _ heq] at hplace
      exact .inl ((hmakes.files place octets).1 hplace)

theorem namesFiles_remove : Action.Keeps World.NamesFiles (store.remove name) := by
  intro world
  cases hentry : world.files.entryAt world.folder (store.file name) with
  | error fault =>
    rw [runOn_remove_fault hentry]
    exact .of_files rfl
  | ok found? =>
    rcases found? with _ | _ | octets
    · rw [runOn_remove_noFile hentry rfl]
      exact .of_files rfl
    · rw [runOn_remove_noFile hentry rfl]
      exact .of_files rfl
    · obtain ⟨place, log, -, hrun⟩ := runOn_remove_file hentry
      rw [hrun]
      intro other octets hother
      dsimp only at hother
      rw [FileTree.get?_erase] at hother
      split at hother
      · cases hother
      · split at hother
        · cases hother
        · exact .inl hother

instance : World.IsStoreFrame World.NamesFiles where
  write := namesFiles_write
  remove := namesFiles_remove

theorem Call.namesFiles (call : Call) : Action.Keeps World.NamesFiles (call.action store) := by
  intro world
  cases call with
  | write name secret =>
    rw [action, runOn_map_snd]
    exact store.namesFiles_write name secret world
  | read name =>
    rw [action, runOn_map_snd]
    exact store.keeps_read name world
  | remove name =>
    rw [action, runOn_map_snd]
    exact store.namesFiles_remove name world
  | list =>
    rw [action, runOn_map_snd]
    exact store.keeps_list world

end Store

/-- New files of a run of the program have the names of the files of identities. -/
theorem CommandLine.namesFiles_run (words : List String) (reply : Reply) (world : World) :
    World.NamesFiles world (run words reply world).2 := by
  obtain ⟨last, log, hends, hworld⟩ := ends_run words reply world
  have hkept : World.NamesFiles { world with memory := [] } last :=
    hends.keeps fun general _ _ store task _ _ => Task.keeps_run
      (fun entry _ => World.NamesFiles.allowsAsking entry)
      (fun entry _ => Keychain.allowsFilling_namesFiles entry) general store reply task
  rw [hworld]
  exact hkept

/-- A text is taken as a name everywhere if it has 1 to 250 letters, digits, hyphens and low lines, which one
line feed may end, and is refused everywhere if it has not.  So what is taken is what the failure asks for,
unless a line feed ends it.  The file of a name has a name of 255 octets at most, or of 256 if the name is the
longest one with a line feed.  Whatever is called, generated or run leaves no new files but those of names. -/
theorem one_language_of_names (text : String) :
    (IsNameText text → ∃ name : IdentityName, name.text = text ∧ name.IsTaken) ∧
    (¬ IsNameText text → IsRefusedName text) ∧
    ((IsNameText text ↔ IsPlainName text.toList) ↔
      ∀ body, IsPlainName body → text.toList ≠ body ++ ['\n']) ∧
    (∀ name : IdentityName, name.text = text → (Store.fileName text).utf8ByteSize ≤ 256 ∧
      ((Store.fileName text).utf8ByteSize = 256 ↔
        ∃ body, IsPlainName body ∧ body.length = 250 ∧ text.toList = body ++ ['\n'])) ∧
    (∀ (store : Store) (call : Store.Call) (world : World),
      World.NamesFiles world ((call.action store).runOn world).2) ∧
    (∀ (request : Generate.Request) (store : Store) (keychain : Option Keychain)
      (funder : Option Funder) (world : World),
      World.NamesFiles world ((request.run store keychain funder).runOn world).2) ∧
    ∀ (words : List String) (reply : Reply) (world : World),
      World.NamesFiles world (CommandLine.run words reply world).2 := by
  refine ⟨fun htext => ?taken, fun htext => isRefusedName htext, isNameText_iff_isPlainName_iff,
    ?files, fun store call world => Store.Call.namesFiles store call world, ?generated,
    CommandLine.namesFiles_run⟩
  case taken => exact ⟨⟨text, isNameForm_iff_isNameText.2 htext⟩, rfl, IdentityName.isTaken _⟩
  case files =>
    rintro name rfl
    exact Store.fileName_fits name
  case generated =>
    intro request store keychain funder world
    exact Generate.Request.keeps_run (fun entry _ => World.NamesFiles.allowsAsking entry)
      (fun entry _ => Keychain.allowsFilling_namesFiles entry) request store keychain funder world

/-- A name with one line feed at its end is taken; one with two is refused, and so is no text at all. -/
theorem one_language_of_names_feed :
    (∃ name : IdentityName, name.text = "a\n" ∧ name.IsTaken) ∧ IsRefusedName "a\n\n" ∧
      IsRefusedName "" := by
  have hnot : ∀ text : String, isNameForm text.toList = false → ¬ IsNameText text := by
    intro text hform htext
    rw [isNameForm_iff_isNameText.2 htext] at hform
    cases hform
  exact ⟨(one_language_of_names "a\n").1 (isNameForm_iff_isNameText.1 (by decide)),
    (one_language_of_names "a\n\n").2.1 (hnot _ (by decide)),
    (one_language_of_names "").2.1 (hnot _ (by decide))⟩

end NamedKeys
