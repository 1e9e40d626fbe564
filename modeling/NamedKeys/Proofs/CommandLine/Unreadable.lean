import NamedKeys.Proofs.CommandLine.Intact
import NamedKeys.Proofs.Store.Malformed

/-!
# Files that are read in vain

A file in the place of an identity is read as a secret, or the failure tells the flaw of its octets; and so
does a command line that asks for the identity.  It ends with the code 1 either way, but only failures that
are reported are told: octets that are no text, and most values that cannot be built, escape.

    entryAt (file name) = a file of octets → read name = .error failure →
      Flaw octets failure ∧ every command line that asks for the name ends with it    (read_fails_by_flaw)
-/

namespace NamedKeys

open NamedKeys.Action

/-- What has not the format of a secret is reported. -/
theorem Failure.isReported_of_secretFormat {failure : Failure} (h : failure.family = .secretFormat) :
    failure.isReported = true := by
  cases failure <;> first | rfl | cases h

namespace CommandLine

/-- A command line asks for a task, to be carried out with a store. -/
def AsksFor (words : List String) (world : World) (store : Store) (task : Task) : Prop :=
  ∃ general command rest, readLine world words = .ok (some (general, command, rest)) ∧
    Task.ofWords command rest = .ok task ∧
    ((openStore general).runOn { world with memory := [] }).1 = .ok store

/-- An outcome comes of a failure: it tells of it if it is reported, and else lets it escape. -/
structure Outcome.ComesOf (outcome : Outcome) (failure : Failure) : Prop where
  code : outcome.code = 1
  output : outcome.output = ""
  tells : failure.isReported = true → outcome.Tells failure
  escapes : failure.isReported = false → outcome.escaped = some failure

theorem Outcome.comesOf_ofResult (failure : Failure) :
    (Outcome.ofResult "" (.error failure)).ComesOf failure := by
  unfold Outcome.ofResult
  dsimp only
  by_cases hreported : failure.isReported = true
  · rw [if_pos hreported]
    exact ⟨rfl, rfl, fun _ => ⟨rfl, rfl, hreported, "", rfl⟩,
      fun hescapes => absurd hreported (Bool.eq_false_iff.1 hescapes)⟩
  · rw [if_neg hreported]
    exact ⟨rfl, rfl, fun htold => absurd htold hreported, fun _ => rfl⟩

variable {store : Store} {name : IdentityName} {failure : Failure} {world : World}

theorem chosenNetwork_error {arguments : Arguments}
    (h : ((chosenNetwork arguments).runOn world).1 = .error failure) :
    ∃ network known, failure = .unknownNetwork network known := by
  unfold chosenNetwork at h
  rw [runOn_bind, runOn_get] at h
  dsimp only at h
  rw [runOn_ofExcept] at h
  unfold Network.ofName at h
  split at h
  · exact ⟨_, _, (Except.error.inj h).symm⟩
  · cases h

/-- A task that asks for a secret that cannot be read fails as the reading does, unless it is to fund the
address and does not know the network. -/
theorem Task.run_unread {task : Task} (hsubject : task.subject? = some name)
    (hread : ∀ other, World.SameStores world other →
      (store.read name).runOn other = (.error failure, other))
    (general : General) (reply : Reply) :
    ((task.run general store reply).runOn world).1 = .error failure ∨
      ∃ path arguments network known, task = .fund name path arguments ∧
        ((task.run general store reply).runOn world).1 = .error (.unknownNetwork network known) := by
  have hpair : ∀ path, (keyPairOf general store name path).runOn world = (.error failure, world) :=
    fun path => runOn_bind_error (hread world (.refl world))
  cases task with
  | help command => cases hsubject
  | generate name path arguments => cases hsubject
  | list => cases hsubject
  | remove name => cases hsubject
  | address other path =>
    obtain rfl := Option.some.inj hsubject
    exact .inl (congrArg Prod.fst (runOn_bind_error (hpair path)))
  | «show» other path =>
    obtain rfl := Option.some.inj hsubject
    exact .inl (congrArg Prod.fst (runOn_bind_error (hpair path)))
  | fund other path arguments =>
    obtain rfl := Option.some.inj hsubject
    -- the network is chosen before the secret is read
    rcases hnetwork : (chosenNetwork arguments).runOn world with ⟨fault | network, after⟩
    · obtain ⟨network, known, rfl⟩ := chosenNetwork_error (congrArg Prod.fst hnetwork)
      exact .inr ⟨path, arguments, network, known, rfl,
        congrArg Prod.fst (runOn_bind_error hnetwork)⟩
    · have hsame : World.SameStores world ((chosenNetwork arguments).runOn world).2 :=
        keeps_chosenNetwork arguments world
      rw [hnetwork] at hsame
      have hunread : (keyPairOf general store other path).runOn after = (.error failure, after) :=
        runOn_bind_error (hread after hsame)
      left
      rw [Task.run, runOn_bind_ok hnetwork, runOn_bind_error hunread]

/-- A command line ends with what its task ends with. -/
theorem run_of_asksFor {words : List String} {task : Task} (hasks : AsksFor words world store task)
    (reply : Reply) : ∃ general start,
      start.files = world.files ∧ start.folder = world.folder ∧
      (run words reply world).1 =
        .ofResult (task.warning general) ((task.run general store reply).runOn start).1 := by
  obtain ⟨general, command, rest, hline, htask, hopen⟩ := hasks
  have hopened : World.SameStores { world with memory := [] }
      ((openStore general).runOn { world with memory := [] }).2 := keeps_openStore general _
  obtain ⟨start, hopen⟩ := exists_of_runOn_fst hopen
  rw [hopen] at hopened
  exact ⟨general, start, hopened.files, hopened.folder, (run_of_task hline hopen htask reply).1⟩

end CommandLine

/-- A file is read as a secret, or the failure tells the flaw of its octets; a flaw of the format is
reported, and octets that are no text always have the flaw that they are none.  A command line that asks
for the identity ends with this failure, unless it is to fund the address and does not know the
network. -/
theorem read_fails_by_flaw {store : Store} {name : IdentityName} {world : World} {octets : List UInt8}
    (hfile : world.files.entryAt world.folder (store.file name) = .ok (some (.file octets))) :
    ∃ result, (store.read name).runOn world = (result, world) ∧
      (Text.Utf8.decode? octets = none → result = .error .notText) ∧
      ∀ failure, result = .error failure → Store.Flaw octets failure ∧
        (failure.family = .secretFormat → failure.isReported = true) ∧
        ∀ words reply task, CommandLine.AsksFor words world store task →
          task.subject? = some name →
          (CommandLine.run words reply world).1.ComesOf failure ∨
          ∃ path arguments network known, task = .fund name path arguments ∧
            (CommandLine.run words reply world).1.ComesOf (.unknownNetwork network known) := by
  refine ⟨_, Store.runOn_read_file hfile, fun hnone => by rw [Store.secretOfOctets, hnone],
    fun failure hfailure =>
      ⟨Store.secretOfOctets_error hfailure, Failure.isReported_of_secretFormat, ?_⟩⟩
  intro words reply task hasks hsubject
  obtain ⟨general, start, hfiles, hfolder, houtcome⟩ := CommandLine.run_of_asksFor hasks reply
  have hwarning : task.warning general = "" := by
    cases task <;> first | rfl | cases hsubject
  have hread : ∀ other, World.SameStores start other →
      (store.read name).runOn other = (.error failure, other) := by
    intro other hsame
    rw [← hfiles, ← hfolder, ← hsame.files, ← hsame.folder] at hfile
    rw [Store.runOn_read_file hfile, hfailure]
  rw [houtcome, hwarning]
  rcases CommandLine.Task.run_unread hsubject hread general reply with hfails | hnetwork
  · rw [hfails]
    exact .inl (CommandLine.Outcome.comesOf_ofResult failure)
  · obtain ⟨path, arguments, network, known, htask, hfails⟩ := hnetwork
    rw [hfails]
    exact .inr ⟨path, arguments, network, known, htask, CommandLine.Outcome.comesOf_ofResult _⟩

/-- A file of one octet that begins no character, one with a date that there is not, a mapping that a tag
calls a date, and a text that is read from itself; all four failures escape from a command line. -/
theorem read_fails_by_flaw_escapes :
    let world (octets : List UInt8) : World := { World.bare with
      files := ⟨[(["store"], .folder), (["store", "identity"], .folder),
        (["store", "identity", "a.yaml"], .file octets)]⟩ }
    let outcome (octets : List UInt8) :=
      (CommandLine.run ["--config-dir", "store", "show", "a"] (.unreachable "") (world octets)).1
    (outcome [0xFF]).escaped = some .notText ∧
      (outcome (Text.Utf8.encode "secret_key: 2021-02-30".toList)).escaped =
        some (.value .impossible) ∧
      (outcome (Text.Utf8.encode "secret_key: !!timestamp \x7b=: 2021-01-01\x7d".toList)).escaped =
        some (.value .noText) ∧
      (outcome (Text.Utf8.encode "secret_key: !!str &a \x7b=: *a\x7d".toList)).escaped =
        some (.value .endless) := by
  intro world outcome
  let store : Store := ⟨⟨"", ["store"]⟩⟩
  have hescapes : ∀ octets failure, failure.isReported = false →
      Store.secretOfOctets (store.file ⟨"a", by decide⟩).text octets = .error failure →
      (outcome octets).escaped = some failure := by
    intro octets failure hreported hoctets
    have hfile : (world octets).files.entryAt (world octets).folder (store.file ⟨"a", by decide⟩) =
        .ok (some (.file octets)) := rfl
    have hasks : CommandLine.AsksFor ["--config-dir", "store", "show", "a"] (world octets) store
        (.show ⟨"a", by decide⟩ none) :=
      ⟨⟨some "store", false, false, "system", []⟩, .show, ["a"], rfl, rfl, rfl⟩
    obtain ⟨result, hread, -, hflaws⟩ := read_fails_by_flaw hfile
    rw [Store.runOn_read_file hfile, hoctets] at hread
    obtain ⟨-, -, hends⟩ := hflaws failure (Prod.mk.inj hread).1.symm
    rcases hends _ (.unreachable "") _ hasks rfl with hends | ⟨_, _, _, _, htask, -⟩
    · exact hends.escapes hreported
    · cases htask
  have hoctet : Text.Utf8.decode? [0xFF] = none := by
    rw [Text.Utf8.decode?, Text.Utf8.pieces, Text.Utf8.pieces.start, show Text.Utf8.lead 0xFF = .none from rfl]
    rfl
  have hvalue : ∀ (content : String) (fault : ValueFault), Failure.isReported (.value fault) = false →
      content.toList.all (·.toNat < 128) = true →
      Yaml.load (Text.unifyLineEnds content.toList) = .error (.value fault) →
      (outcome (Text.Utf8.encode content.toList)).escaped = some (.value fault) := by
    intro content fault hreported hascii hload
    refine hescapes _ _ hreported (Store.secretOfOctets_of_fault ?_ hload)
    exact Text.Utf8.decode?_encode fun c hc => of_decide_eq_true (List.all_eq_true.1 hascii c hc)
  have hday : Yaml.tokens (Text.unifyLineEnds "secret_key: 2021-02-30".toList) =
      [.blockMappingStart, .key, .scalar "secret_key".toList true, .value,
        .scalar "2021-02-30".toList true, .blockEnd] := by decide +kernel
  have hdate : Yaml.tokens (Text.unifyLineEnds "secret_key: !!timestamp \x7b=: 2021-01-01\x7d".toList) =
      [.blockMappingStart, .key, .scalar "secret_key".toList true, .value,
        .tag (some "!!") "timestamp", .flowMappingStart, .key, .scalar ['='] true, .value,
        .scalar "2021-01-01".toList true, .flowMappingEnd, .blockEnd] := by decide +kernel
  have hself : Yaml.tokens (Text.unifyLineEnds "secret_key: !!str &a \x7b=: *a\x7d".toList) =
      [.blockMappingStart, .key, .scalar "secret_key".toList true, .value, .tag (some "!!") "str",
        .anchor "a", .flowMappingStart, .key, .scalar ['='] true, .value, .alias "a", .flowMappingEnd,
        .blockEnd] := by decide +kernel
  refine ⟨hescapes _ _ rfl ?_, hvalue _ _ rfl (by decide) ?_, hvalue _ _ rfl (by decide) ?_,
    hvalue _ _ rfl (by decide) ?_⟩
  · rw [Store.secretOfOctets, hoctet]
  · rw [Yaml.load, hday]
    rfl
  · rw [Yaml.load, hdate]
    rfl
  · rw [Yaml.load, hself]
    rfl

end NamedKeys
