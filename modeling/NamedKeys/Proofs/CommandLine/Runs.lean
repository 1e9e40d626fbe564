import NamedKeys.CommandLine
import NamedKeys.Proofs.Frame

/-!
# Runs of the program, stage by stage

A run reads the command line, opens the store, reads the words of the command and carries out its task, and
it ends at the first of these stages that fails, or after the last of them:

    unread, helped     the command line is a misuse, or asks for help
    unopened           there is no store
    misused            the words are a misuse of the command
    carriedOut         the task has succeeded or failed

The keychain in memory is a new one for the run and is gone after it (`ends_run`).
-/

namespace NamedKeys.CommandLine

open NamedKeys.Action

/-- How a run ends, and in which world, with a keychain in memory of its own. -/
inductive Ends (words : List String) (reply : Reply) (world : World) : Outcome → World → Prop
  | unread {fault : UsageFault} (hline : readLine world words = .error fault) :
    Ends words reply world (.ofMisuse ⟨none, fault⟩) { world with memory := [] }
  | helped (hline : readLine world words = .ok none) :
    Ends words reply world ⟨0, "Usage: " ++ formOf none ++ "\n", "", none⟩
      { world with memory := [] }
  | unopened {general : General} {command : Command} {rest : List String} {failure : Failure}
      {after : World} (hline : readLine world words = .ok (some (general, command, rest)))
      (hopen : (openStore general).runOn { world with memory := [] } = (.error failure, after)) :
    Ends words reply world ⟨1, "", "", some failure⟩ after
  | misused {general : General} {command : Command} {rest : List String} {store : Store}
      {after : World} {fault : UsageFault}
      (hline : readLine world words = .ok (some (general, command, rest)))
      (hopen : (openStore general).runOn { world with memory := [] } = (.ok store, after))
      (htask : Task.ofWords command rest = .error fault) :
    Ends words reply world (.ofMisuse ⟨some command, fault⟩) after
  | carriedOut {general : General} {command : Command} {rest : List String} {store : Store}
      {start last : World} {task : Task} {result : Except Failure String}
      (hline : readLine world words = .ok (some (general, command, rest)))
      (hopen : (openStore general).runOn { world with memory := [] } = (.ok store, start))
      (htask : Task.ofWords command rest = .ok task)
      (hrun : (task.run general store reply).runOn start = (result, last)) :
    Ends words reply world (.ofResult (task.warning general) result) last

/-- Carrying out a command never fails, since its failures are outcomes. -/
theorem runOn_runCommand {words : List String} {world : World} {general : General} {command : Command}
    {rest : List String} (hline : readLine world words = .ok (some (general, command, rest)))
    (reply : Reply) :
    ∃ outcome last, (runCommand general command rest reply).runOn { world with memory := [] } =
      (.ok outcome, last) ∧ Ends words reply world outcome last := by
  unfold runCommand
  rcases hopen : (openStore general).runOn { world with memory := [] } with ⟨failure | store, start⟩
  · rw [runOn_bind, runOn_attempt, hopen]
    exact ⟨_, _, rfl, .unopened hline hopen⟩
  · rw [runOn_bind, runOn_attempt, hopen]
    dsimp only
    cases htask : Task.ofWords command rest with
    | error fault => exact ⟨_, _, rfl, .misused hline hopen htask⟩
    | ok task =>
      rcases hrun : (task.run general store reply).runOn start with ⟨result, last⟩
      dsimp only
      rw [runOn_bind, runOn_attempt, hrun]
      exact ⟨_, _, rfl, .carriedOut hline hopen htask hrun⟩

/-- Every run ends at one of the stages. -/
theorem ends_run (words : List String) (reply : Reply) (world : World) :
    ∃ last log, Ends words reply world (run words reply world).1 last ∧
      (run words reply world).2 = { last with memory := world.memory, log } := by
  unfold run
  rcases hline : readLine world words with fault | _ | ⟨general, command, rest⟩
  · exact ⟨_, world.log, .unread hline, rfl⟩
  · exact ⟨_, world.log, .helped hline, rfl⟩
  · obtain ⟨outcome, last, hrun, hends⟩ := runOn_runCommand hline reply
    dsimp only
    rw [hrun]
    exact ⟨last, _, hends, rfl⟩

/-- A run ends in one way: each stage is reached if the one before it has succeeded, and has one result. -/
theorem Ends.unique {words : List String} {reply : Reply} {world last other : World}
    {outcome found : Outcome} (h : Ends words reply world outcome last)
    (h' : Ends words reply world found other) : outcome = found ∧ last = other := by
  cases h <;> cases h' <;> grind

/-- What is known of the stages of a run is known of the run. -/
theorem run_of_ends {words : List String} {reply : Reply} {world last : World} {outcome : Outcome}
    (h : Ends words reply world outcome last) :
    (run words reply world).1 = outcome ∧
      ∃ log, (run words reply world).2 = { last with memory := world.memory, log } := by
  obtain ⟨other, log, hends, hworld⟩ := ends_run words reply world
  obtain ⟨rfl, rfl⟩ := h.unique hends
  exact ⟨rfl, log, hworld⟩

/-- A run whose task is reached ends with what the task ends with. -/
theorem run_of_task {words : List String} {world : World} {general : General} {command : Command}
    {rest : List String} {store : Store} {start : World} {task : Task}
    (hline : readLine world words = .ok (some (general, command, rest)))
    (hopen : (openStore general).runOn { world with memory := [] } = (.ok store, start))
    (htask : Task.ofWords command rest = .ok task) (reply : Reply) :
    (run words reply world).1 =
        .ofResult (task.warning general) ((task.run general store reply).runOn start).1 ∧
      ∃ log, (run words reply world).2 =
        { ((task.run general store reply).runOn start).2 with memory := world.memory, log } :=
  run_of_ends (.carriedOut hline hopen htask rfl)

end NamedKeys.CommandLine
