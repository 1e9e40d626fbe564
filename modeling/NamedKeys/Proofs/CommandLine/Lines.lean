import NamedKeys.CommandLine
import NamedKeys.Proofs.Frame

/-!
# Command lines with one general part

The words before the name of a command are read as general options, whatever the command and the words
after its name are (`readLine_append`).  The words of a command that asks for the pair of an identity are
read as the path and the name of the identity, in one way for all of these commands (`ofWords_command`).
-/

namespace NamedKeys.CommandLine

/-! ## The general part -/

/-- Words are general options, each with its value. -/
def IsGeneralPart (before : List String) : Prop :=
  ∃ options, Arguments.read generalOptions false none before = .ok ⟨options, []⟩

/-- The general options of words, or nothing when help is asked for. -/
def generalOf (world : World) (before : List String) : Except UsageFault (Option General) := do
  let arguments ← Arguments.read generalOptions false none before
  if arguments.has .help then return none
  return some (← General.ofArguments world arguments)

theorem Arguments.exists_of_map_prepend {first : Except UsageFault Arguments}
    {read found : List (Parameter × String)} (h : first.map (prepend read) = .ok ⟨found, []⟩) :
    ∃ later, first = .ok ⟨later, []⟩ ∧ read ++ later = found := by
  obtain ⟨⟨later, words⟩, hfirst, hfound⟩ := exists_of_map_ok h
  rw [prepend, Arguments.mk.injEq] at hfound
  obtain ⟨hoptions, rfl⟩ := hfound
  exact ⟨later, hfirst, hoptions⟩

/-- Options are read up to the first word that is none, if no value is lacking there. -/
theorem Arguments.read_append {options : List Parameter} {word : String}
    (hword : word.toList.head? ≠ some '-') (rest : List String) {before : List String}
    {waiting : Option (Parameter × String)} {found : List (Parameter × String)}
    (h : read options false waiting before = .ok ⟨found, []⟩) :
    read options false waiting (before ++ word :: rest) = .ok ⟨found, word :: rest⟩ := by
  induction before generalizing waiting found with
  | nil =>
    cases waiting with
    | some lacking => cases h
    | none =>
      obtain rfl : [] = found := (Arguments.mk.inj (Except.ok.inj h)).1
      have hend : word ≠ "--" := by
        rintro rfl
        exact hword rfl
      rw [List.nil_append, read]
      dsimp only
      rw [if_neg hend, if_neg fun hoption => hword hoption.1]
      rfl
  | cons first before ih =>
    rw [List.cons_append]
    cases waiting with
    | some lacking =>
      rw [read] at h ⊢
      obtain ⟨later, hlater, rfl⟩ := exists_of_map_prepend h
      rw [ih hlater]
      rfl
    | none =>
      rw [read] at h ⊢
      dsimp only at h ⊢
      by_cases hend : first = "--"
      · rw [if_pos hend] at h ⊢
        obtain ⟨rfl, rfl⟩ := Arguments.mk.inj (Except.ok.inj h)
        rfl
      · rw [if_neg hend] at h ⊢
        by_cases hoption : first.toList.head? = some '-' ∧ first ≠ "-"
        · rw [if_pos hoption] at h ⊢
          obtain ⟨⟨front, open?⟩, hfront, hrest⟩ := exists_of_bind_ok h
          obtain ⟨later, hlater, rfl⟩ := exists_of_map_prepend hrest
          rw [hfront]
          simp only [bind, Except.bind, ih hlater]
          rfl
        · rw [if_neg hoption] at h
          cases h

theorem head?_name (command : Command) : command.name.toList.head? ≠ some '-' := by
  cases command <;> decide

theorem commandOf_name (world : World) (command : Command) (rest : List String) :
    commandOf world command.name rest = .ok command := by
  cases command <;> rfl

/-- The general part of a command line does not depend on what follows it. -/
theorem readLine_append {before : List String} (h : IsGeneralPart before) (world : World)
    (command : Command) (rest : List String) :
    readLine world (before ++ command.name :: rest) =
      (generalOf world before).map (Option.map fun general => (general, command, rest)) := by
  obtain ⟨options, hread⟩ := h
  have hgeneral : ∀ words, General.ofArguments world ⟨options, words⟩ =
      General.ofArguments world ⟨options, []⟩ := fun _ => rfl
  have hhelp : ∀ words, Arguments.has ⟨options, words⟩ .help = Arguments.has ⟨options, []⟩ .help :=
    fun _ => rfl
  unfold readLine generalOf
  rw [hread, Arguments.read_append (head?_name command) rest hread]
  simp only [bind, Except.bind, hhelp, hgeneral, commandOf_name]
  split
  · rfl
  · cases General.ofArguments world ⟨options, []⟩ <;> rfl

/-! ## The part of a command -/

/-- The commands that ask for the pair of an identity. -/
inductive Inquiry where
  | address
  | show
  | fund
  deriving DecidableEq, Repr

namespace Inquiry

def command : Inquiry → Command
  | address => .address
  | Inquiry.show => .show
  | fund => .fund

/-- What is to be done with the pair. -/
def task : Inquiry → Arguments → IdentityName → Option Int → Task
  | address, _, name, path => .address name path
  | Inquiry.show, _, name, path => .show name path
  | fund, arguments, name, path => .fund name path arguments

/-- What is to be done about an identity, or if help is asked for. -/
def taskOf (inquiry : Inquiry) : Arguments × Option (IdentityName × Option Int) → Task
  | (_, none) => .help (some inquiry.command)
  | (arguments, some (name, path)) => inquiry.task arguments name path

end Inquiry

/-- The identity and the path in the words after a command, or nothing when help is asked for. -/
def subjectOf (options : List Parameter) (words : List String) :
    Except UsageFault (Arguments × Option (IdentityName × Option Int)) := do
  let arguments ← Arguments.read options true none words
  if arguments.has .help then return (arguments, none)
  let path ← (arguments.value? .path).mapM fun text => readAs .path (readPath text)
  let name ← nameOf arguments
  let extra := arguments.words.drop 1
  if extra ≠ [] then throw (.extraArguments extra)
  return (arguments, some (name, path))

/-- The words after all of these commands are read in one way. -/
theorem ofWords_command (inquiry : Inquiry) (words : List String) :
    Task.ofWords inquiry.command words =
      (subjectOf inquiry.command.options words).map inquiry.taskOf := by
  have hname : inquiry.command.hasName = true := by cases inquiry <;> decide
  unfold Task.ofWords subjectOf
  simp only [hname, if_true]
  cases Arguments.read inquiry.command.options true none words with
  | error fault => rfl
  | ok arguments =>
    simp only [bind, Except.bind]
    split
    · rfl
    · cases (arguments.value? .path).mapM fun text => readAs .path (readPath text) with
      | error fault => rfl
      | ok path =>
        cases nameOf arguments with
        | error fault => rfl
        | ok name =>
          by_cases hextra : arguments.words.drop 1 ≠ []
          · simp only [Functor.map, Except.map, if_pos hextra]
            rfl
          · simp only [Functor.map, Except.map, if_neg hextra]
            cases inquiry <;> rfl

end NamedKeys.CommandLine
