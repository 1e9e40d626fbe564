import NamedKeys.Proofs.CommandLine.Runs
import NamedKeys.Proofs.Generate.Forms
import NamedKeys.Proofs.Generate.Intact
import NamedKeys.Proofs.Secret.Forms

/-!
# Command lines that fail

A task that ends with a failure of the program's own leaves files and keychains as they were, for every
command (`failsIntact_task`): all but one part of it changes neither, and a generation fails so before
it has stored anything, unless its funder fails in this way.  With what a failing generation leaves
(`Generate.run_error_cases`) this is

    failures_leave_stores
-/

namespace NamedKeys

open NamedKeys.Action

/-! ## Failing without a change -/

/-- An action leaves files and keychains as they were if it fails in certain ways. -/
def Action.FailsIntact {α : Type} (P : Failure → Prop) (action : Action α) : Prop :=
  ∀ world failure after, action.runOn world = (.error failure, after) → P failure →
    World.SameStores world after

namespace Action

variable {α β : Type} {P : Failure → Prop} {action : Action α} {next : α → Action β}

theorem FailsIntact.of_keeps (h : Keeps World.SameStores action) : FailsIntact P action := by
  intro world failure after hrun _
  have hsame := h world
  rwa [hrun] at hsame

theorem FailsIntact.bind (h : Keeps World.SameStores action) (hnext : ∀ a, FailsIntact P (next a)) :
    FailsIntact P (action >>= next) := by
  intro world failure after hrun hfailure
  have hsame := h world
  rcases hfirst : action.runOn world with ⟨other | a, middle⟩
  · rw [runOn_bind_error hfirst] at hrun
    rw [hfirst, (Prod.mk.inj hrun).2] at hsame
    exact hsame
  · rw [runOn_bind_ok hfirst] at hrun
    rw [hfirst] at hsame
    exact hsame.trans (hnext a middle failure after hrun hfailure)

/-- What cannot fail may follow. -/
theorem FailsIntact.bind_pure (h : FailsIntact P action) (f : α → β) :
    FailsIntact P (action >>= fun a => pure (f a)) := by
  intro world failure after hrun hfailure
  rcases hfirst : action.runOn world with ⟨other | a, middle⟩
  · rw [runOn_bind_error hfirst] at hrun
    obtain ⟨hother, rfl⟩ := Prod.mk.inj hrun
    exact h world other middle hfirst (by rwa [Except.error.inj hother])
  · rw [runOn_bind_ok hfirst] at hrun
    cases (Prod.mk.inj hrun).1

end Action

/-! ## Parts of tasks that change nothing -/

section Keeps

variable {R : World → World → Prop} [World.IsQuietFrame R]

theorem Store.keeps_read (store : Store) (name : IdentityName) :
    Action.Keeps R (store.read name) := by
  refine (keeps_readFile? _).bind fun octets => ?_
  cases octets with
  | none => exact keeps_throw _
  | some octets => exact keeps_ofExcept _

/-- A keychain secret that is read names an entry of the program's own, whatever is in the file. -/
theorem Store.returns_read (store : Store) (name : IdentityName) :
    Returns (fun secret => ∀ entry, secret = .keychain entry → Secret.IsOwnEntry entry)
      (store.read name) := by
  rintro world after secret hrun entry rfl
  obtain ⟨octets, middle, -, hsecret⟩ := exists_of_runOn_bind hrun
  cases octets with
  | none => cases (Prod.mk.inj hsecret).1
  | some octets =>
    dsimp only at hsecret
    rw [runOn_ofExcept] at hsecret
    obtain ⟨text, hparse⟩ := exists_parse_of_secretOfOctets (Prod.mk.inj hsecret).1
    exact (Secret.isWrittenIn_keychain_iff.1 (Secret.parse_eq_ok_iff.1 hparse)).2

theorem Store.keeps_list (store : Store) : Action.Keeps R store.list := by
  refine keeps_get.bind fun world => (keeps_ofFiles _).bind fun there => ?_
  split
  · exact (keeps_ofFiles _).bind fun _ => keeps_pure _
  · exact keeps_pure _

theorem StoreLocation.keeps_findAmong (paths : List Path) : Keeps R (findAmong paths) := by
  induction paths with
  | nil => exact keeps_pure _
  | cons path above ih =>
    refine keeps_get.bind fun world => (keeps_ofFiles _).bind fun found => ?_
    split
    · exact keeps_pure _
    · refine (keeps_ofFiles _).bind fun mark => ?_
      split
      · exact (keeps_log _ _).bind fun _ => keeps_pure _
      · exact ih

theorem StoreLocation.keeps_resolve (useGlobal : Bool) (given : Option Path) :
    Keeps R (resolve useGlobal given) := by
  cases given with
  | some path => exact keeps_pure _
  | none =>
    unfold resolve
    cases useGlobal with
    | true => exact (keeps_pure _).bind fun _ => keeps_get.bind fun _ => keeps_pure _
    | false =>
      exact (keeps_get.bind fun _ => keeps_findAmong _).bind fun _ => keeps_get.bind fun _ =>
        keeps_pure _

theorem Keychain.keeps_ofBackend (backend : Backend) (settings : Table String String) :
    Keeps R (ofBackend backend settings) := by
  cases backend with
  | memory => exact keeps_pure _
  | system =>
    unfold ofBackend
    dsimp only
    split
    · exact (keeps_log _ _).bind fun _ => keeps_pure _
    · exact keeps_get.bind fun _ => keeps_pure _

namespace CommandLine

theorem keeps_openStore (general : General) : Keeps R (openStore general) :=
  (keeps_log _ _).bind fun _ => (StoreLocation.keeps_resolve _ _).bind fun _ => keeps_pure _

theorem keeps_openKeychain (general : General) : Keeps R (openKeychain general) :=
  (keeps_ofExcept _).bind fun _ => Keychain.keeps_ofBackend _ _

theorem keeps_chosenNetwork (arguments : Arguments) : Keeps R (chosenNetwork arguments) :=
  keeps_get.bind fun _ => keeps_ofExcept _

theorem keeps_keyPairOf (hask : ∀ entry, Secret.IsOwnEntry entry → World.AllowsAsking R entry)
    (general : General) (store : Store) (name : IdentityName) (path : Option Int) :
    Keeps R (keyPairOf general store name path) := by
  refine (store.keeps_read name).bind_returns (store.returns_read name) fun secret hsecret =>
    Keeps.bind ?_ fun chosen => keeps_keyPairOfSecret secret path chosen fun entry hentry =>
      hask entry (hsecret entry hentry)
  cases secret with
  | seedPhrase phrase => exact keeps_pure _
  | secretKey text => exact keeps_pure _
  | keychain entry =>
    unfold keychainFor
    rw [map_eq_pure_bind]
    exact (keeps_openKeychain general).bind fun _ => keeps_pure _

def Task.subject? : Task → Option IdentityName
  | .address name _ | .show name _ | .fund name _ _ => some name
  | _ => none

/-- A task that asks for a secret asks a keychain at most for the entry that this names, and may send a
request. -/
theorem Task.keeps_of_subject? {R : World → World → Prop} [World.IsRequestFrame R]
    (hask : ∀ entry, Secret.IsOwnEntry entry → World.AllowsAsking R entry) {task : Task}
    {name : IdentityName} (h : task.subject? = some name) (general : General) (store : Store)
    (reply : Reply) : Keeps R (task.run general store reply) := by
  have hpair := fun name path => keeps_keyPairOf hask general store name path
  cases task with
  | help command => cases h
  | generate name path arguments => cases h
  | list => cases h
  | remove name => cases h
  | address name path => exact (hpair name path).bind fun _ => keeps_pure _
  | «show» name path => exact (hpair name path).bind fun _ => keeps_pure _
  | fund name path arguments =>
    exact (keeps_chosenNetwork arguments).bind fun _ => (hpair name path).bind fun _ =>
      (keeps_fund _ _).bind fun _ => keeps_pure _

end CommandLine

end Keeps

/-! ## Tasks -/

/-- A removal that fails removes nothing. -/
theorem Store.failsIntact_remove {P : Failure → Prop} (store : Store) (name : IdentityName) :
    FailsIntact P (store.remove name) := by
  refine .bind (keeps_readFile? _) fun octets => ?_
  cases octets with
  | none => exact .of_keeps (keeps_throw _)
  | some octets =>
    refine .bind keeps_get fun world => .bind (keeps_ofFiles _) fun place =>
      .bind (keeps_ofFiles _) fun files => ?_
    intro start failure after hrun
    cases (Prod.mk.inj hrun).1

/-- A failure is the program's own, and is not what a request has ended with. -/
def Reply.Leaves (reply : Reply) (failure : Failure) : Prop :=
  failure.isReported = true ∧ reply ≠ .failure failure

/-- A generation that fails with a failure of the program's own leaves files and keychains as they were,
if it is no failure of the funder. -/
theorem Generate.failsIntact_run {P : Failure → Prop} {options : Options} {funder : Option Funder}
    (hpath : ∀ index ∈ options.path, 0 ≤ index ∧ index < 2 ^ 31)
    (hreported : ∀ failure, P failure → failure.isReported = true)
    (hfunder : ∀ fund ∈ funder, ∀ address failure, (fund address).result = .error failure →
      failure.family ≠ .network → ¬ P failure)
    (store : Store) (keychain : Option Keychain) :
    FailsIntact P (run options store keychain funder) := by
  intro world failure after hrun hfailure
  rcases run_error_cases hpath hrun with hintact | ⟨⟨fund, hfund, address, -, hresult⟩, hfamily⟩
  · cases hintact with
    | unchanged _ hsame => exact hsame
    | unwritten => cases hreported _ hfailure
    | filled => cases hreported _ hfailure
  · exact absurd hfailure (hfunder fund hfund address failure hresult hfamily)

theorem Raised.isReported_failure (raised : Raised) : raised.failure.isReported = false := by
  rw [failure]
  split <;> rfl

/-- What a network fails with is a failure of the network, or is not the program's own, or is what the
request has ended with. -/
theorem Network.not_leaves_of_fund {network : Network} {reply : Reply} {address : String}
    {failure : Failure} (h : (network.fund reply address).result = .error failure)
    (hfamily : failure.family ≠ .network) : ¬ reply.Leaves failure := by
  rintro ⟨hreported, hreply⟩
  unfold fund fundBy at h
  split at h
  · exact absurd (Except.error.inj h ▸ rfl) hfamily
  · dsimp only at h
    split at h
    · next unanswered hexchange =>
      obtain rfl := Except.error.inj h
      unfold Reply.exchange at hexchange
      split at hexchange
      · exact absurd (Except.error.inj hexchange ▸ rfl) hfamily
      · cases reply with
        | unreachable cause => exact absurd (Except.error.inj hexchange ▸ rfl) hfamily
        | failure other => exact hreply (congrArg Reply.failure (Except.error.inj hexchange))
        | answer status text =>
          dsimp only [Reply.outcome] at hexchange
          split at hexchange
          · cases hexchange
          · rw [← Except.error.inj hexchange] at hreported
            cases hreported
    · dsimp only [answered] at h
      split at h
      · cases h
      · split at h
        · rw [← Except.error.inj h, Raised.isReported_failure] at hreported
          cases hreported
        · split at h
          · cases h
          · exact absurd (Except.error.inj h ▸ rfl) hfamily

namespace CommandLine

theorem failsIntact_generate (general : General) (store : Store) (reply : Reply)
    (request : Generate.Request) (arguments : Arguments) :
    FailsIntact reply.Leaves (generate general store reply request arguments) := by
  unfold generate
  cases hoptions : Generate.Options.ofRequest request with
  | error failure =>
    intro world other after hrun _
    obtain ⟨-, rfl⟩ := Prod.mk.inj hrun
    exact .refl world
  | ok options =>
    have hpath := (Generate.ofRequest_ok hoptions).inRange
    have unfunded : ∀ keychain,
        FailsIntact reply.Leaves (Generate.run options store keychain none) :=
      Generate.failsIntact_run hpath (fun _ h => h.1) (by rintro fund ⟨⟩) store
    have funded : ∀ (network : Network) keychain, FailsIntact reply.Leaves
        (Generate.run options store keychain (some (network.fund reply))) := by
      intro network
      refine Generate.failsIntact_run hpath (fun _ h => h.1) ?_ store
      rintro fund ⟨⟩ address failure hresult hfamily
      exact Network.not_leaves_of_fund hresult hfamily
    have hgiven : Action.ofExcept (.ok options) = (pure options : Action Generate.Options) := rfl
    rw [hgiven, pure_bind]
    -- the network is chosen before the keychain, and each of them only if it is wanted
    cases request.noFund <;> cases request.inKeychain <;>
      simp only [Bool.false_eq_true, if_true, if_false, pure_bind, bind_map_left]
    · exact .bind (keeps_chosenNetwork arguments) fun network => (funded network none).bind_pure _
    · exact .bind (keeps_chosenNetwork arguments) fun network =>
        .bind (keeps_openKeychain general) fun chosen => (funded network (some chosen)).bind_pure _
    · exact (unfunded none).bind_pure _
    · exact .bind (keeps_openKeychain general) fun chosen => (unfunded (some chosen)).bind_pure _

/-- A task that fails with a failure of the program's own leaves files and keychains as they were, if it
is not what the request for its funding has ended with. -/
theorem failsIntact_task (general : General) (store : Store) (reply : Reply) (task : Task) :
    FailsIntact reply.Leaves (task.run general store reply) := by
  have hask : ∀ entry, Secret.IsOwnEntry entry → World.AllowsAsking World.SameStores entry :=
    fun entry _ => .allowsAsking entry
  cases task with
  | help command => exact .of_keeps (keeps_pure _)
  | generate name path arguments => exact failsIntact_generate general store reply _ arguments
  | address name path => exact .of_keeps (Task.keeps_of_subject? hask rfl general store reply)
  | «show» name path => exact .of_keeps (Task.keeps_of_subject? hask rfl general store reply)
  | list => exact .of_keeps (store.keeps_list.bind fun _ => keeps_pure _)
  | remove name => exact (store.failsIntact_remove name).bind_pure _
  | fund name path arguments =>
    exact .of_keeps (Task.keeps_of_subject? hask rfl general store reply)

/-! ## Runs -/

variable {reply : Reply} {words : List String} {world after : World} {outcome : Outcome}

/-- An outcome tells of a failure: it is printed, with the code 1. -/
structure Outcome.Tells (outcome : Outcome) (failure : Failure) : Prop where
  code : outcome.code = 1
  escaped : outcome.escaped = none
  reported : failure.isReported = true
  printed : ∃ warning, outcome.errors = warning ++ "Error: " ++ failure.message ++ "\n"

theorem Outcome.tells_ofResult {warning : String} {result : Except Failure String}
    (hcode : (Outcome.ofResult warning result).code = 1)
    (hescaped : (Outcome.ofResult warning result).escaped = none) :
    ∃ failure, result = .error failure ∧ (Outcome.ofResult warning result).Tells failure := by
  cases result with
  | ok output => cases hcode
  | error failure =>
    by_cases hreported : failure.isReported = true
    · refine ⟨failure, rfl, hcode, hescaped, hreported, warning, ?_⟩
      rw [Outcome.ofResult, if_pos hreported]
    · rw [Outcome.ofResult, if_neg hreported] at hescaped
      cases hescaped

/-- The store is opened and the task is carried out in a world whose keychain in memory is empty. -/
theorem Ends.keeps {R : World → World → Prop} [World.IsQuietFrame R]
    (hkeeps : ∀ general command rest store task,
      readLine world words = .ok (some (general, command, rest)) →
      Task.ofWords command rest = .ok task → Keeps R (task.run general store reply))
    (h : Ends words reply world outcome after) : R { world with memory := [] } after := by
  have hopened : ∀ general, R { world with memory := [] }
      ((openStore general).runOn { world with memory := [] }).2 :=
    fun general => keeps_openStore general _
  cases h with
  | unread => exact World.IsFrame.refl _
  | helped => exact World.IsFrame.refl _
  | @unopened general _ _ _ _ _ hopen =>
    have hstart := hopened general
    rwa [hopen] at hstart
  | @misused general _ _ _ _ _ _ hopen =>
    have hstart := hopened general
    rwa [hopen] at hstart
  | @carriedOut general command rest store start last task _ hline hopen htask hrun =>
    have hstart := hopened general
    have hlast := hkeeps general command rest store task hline htask start
    rw [hopen] at hstart
    rw [hrun] at hlast
    exact World.IsFrame.trans hstart hlast

theorem Ends.intact (h : Ends words reply world outcome after) (hcode : outcome.code = 1)
    (hescaped : outcome.escaped = none) :
    ∃ failure, outcome.Tells failure ∧
      (World.SameStores { world with memory := [] } after ∨ reply = .failure failure) := by
  cases h with
  | unread => cases hcode
  | helped => cases hcode
  | unopened => cases hescaped
  | misused => cases hcode
  | @carriedOut general _ _ store start last task _ _ hopen _ hrun =>
    have hopened : World.SameStores { world with memory := [] }
        ((openStore general).runOn { world with memory := [] }).2 := keeps_openStore general _
    rw [hopen] at hopened
    obtain ⟨failure, rfl, htells⟩ := Outcome.tells_ofResult hcode hescaped
    refine ⟨failure, htells, ?_⟩
    by_cases hreply : reply = .failure failure
    · exact .inr hreply
    · have hown : reply.Leaves failure := ⟨htells.reported, hreply⟩
      exact .inl (hopened.trans (failsIntact_task general store reply task _ _ _ hrun hown))

/-- A command line that ends with the code 1, and with no failure that escapes, tells of a failure and
has left files and keychains as they were, unless it is what the request for its funding has ended
with. -/
theorem run_intact (hcode : (run words reply world).1.code = 1)
    (hescaped : (run words reply world).1.escaped = none) :
    ∃ failure, (run words reply world).1.Tells failure ∧
      (World.SameStores world (run words reply world).2 ∨ reply = .failure failure) := by
  obtain ⟨last, log, hends, hworld⟩ := ends_run words reply world
  obtain ⟨failure, htells, hend⟩ := hends.intact hcode hescaped
  refine ⟨failure, htells, hend.imp_left fun hsame => ?_⟩
  rw [hworld]
  exact ⟨hsame.files, hsame.folder, rfl, hsame.keyring, hsame.replaceRefusal⟩

end CommandLine

/-- A generation that fails, and not because its funder has failed, leaves files and keychains as they
were, but for folders and the entry that it has filled if the file could not be written.  When the
identity has been stored, only the funder makes a generation fail, and not with a failure of the network.
A command line that ends with the code 1, and not with a failure that escapes, tells of a failure; it
leaves files and keychains as they were, unless the request for its funding has ended with it. -/
theorem failures_leave_stores :
    (∀ (request : Generate.Request) (store : Store) (keychain : Option Keychain)
      (funder : Option Funder) (world : World) (failure : Failure) (after : World),
      (request.run store keychain funder).runOn world = (.error failure, after) →
      ¬ Generate.IsRaised funder (addressesFunded (request.run store keychain) funder world) failure →
      (Generate.Options.ofRequest request = .error failure ∧ after = world) ∨
        ∃ options, Generate.Options.ofRequest request = .ok options ∧
          Generate.LeftIntact options keychain world failure after) ∧
    (∀ (request : Generate.Request) (options : Generate.Options) (store : Store)
      (keychain : Option Keychain) (funder : Option Funder) (world : World)
      (stored : Secret × Option String) (middle : World) (failure : Failure) (after : World),
      Generate.Options.ofRequest request = .ok options →
      (Generate.storeNew options store keychain).runOn world = (.ok stored, middle) →
      (request.run store keychain funder).runOn world = (.error failure, after) →
      Generate.IsRaised funder (addressesFunded (request.run store keychain) funder world) failure ∧
        failure.family ≠ .network) ∧
    ∀ (words : List String) (reply : Reply) (world : World),
      let run := CommandLine.run words reply world
      run.1.code = 1 → run.1.escaped = none →
      ∃ failure, run.1.Tells failure ∧ (World.SameStores world run.2 ∨ reply = .failure failure) := by
  refine ⟨?_, ?_, fun words reply world => CommandLine.run_intact⟩
  · intro request store keychain funder world failure after hrun hraised
    cases hoptions : Generate.Options.ofRequest request with
    | error other =>
      rw [Generate.Request.run_of_error hoptions] at hrun
      obtain ⟨hother, rfl⟩ := Prod.mk.inj hrun
      obtain rfl := Except.error.inj hother
      exact .inl ⟨rfl, rfl⟩
    | ok options =>
      rw [Generate.Request.run_of_ok hoptions] at hrun hraised
      rcases Generate.run_error_cases (Generate.ofRequest_ok hoptions).inRange hrun with
        hintact | ⟨hfunder, -⟩
      · exact .inr ⟨options, rfl, hintact⟩
      · exact absurd hfunder hraised
  · intro request options store keychain funder world stored middle failure after hoptions hstore hrun
    rw [Generate.Request.run_of_ok hoptions] at hrun ⊢
    exact Generate.raised_of_storeNew_ok (Generate.ofRequest_ok hoptions).inRange hstore hrun

def testOptions (form : Generate.Form) : Generate.Options :=
  { keychainOptions with form, path := some 7 }

theorem inRange_testOptions (form : Generate.Form) :
    ∀ index ∈ (testOptions form).path, 0 ≤ index ∧ index < 2 ^ 31 := by
  rintro index ⟨⟩
  decide

theorem newPair_testOptions (form : Generate.Form) (world : World) :
    ∃ pair, Generate.newPair (testOptions form) world = .ok pair :=
  Generate.newPair_of_newPhrase (newPhrase_testSeed world) (inRange_testOptions form)

/-- A file that must not be put in the stead of another, so that the entry is filled and the file is not
written; a funder that fails; and a command line with a seed that is too short. -/
theorem failures_leave_stores_refused :
    let store : Store := ⟨⟨"", ["store"]⟩⟩
    let refusing : World := { World.bare with replaceRefusal := some "" }
    let rude : Funder := fun _ => ⟨.error (.foreign "RuntimeError" ""), [], []⟩
    (∃ fault after pair, ((testRequest false true).run store (some .memory) none).runOn refusing =
        (.error (.file fault), after) ∧
      Keychain.memory.HoldsPair after (Generate.entryOf (testOptions .keychain).name) pair) ∧
    (∃ failure after, ((testRequest false false).run store none (some rude)).runOn .bare =
        (.error failure, after) ∧ failure.family ≠ .network) ∧
    World.SameStores .bare (CommandLine.run ["-q", "generate", "--no-fund", "--seed", "short", "a"]
      (.unreachable "") .bare).2 := by
  intro store refusing rude
  refine ⟨?_, ?_, ?_⟩
  · have hoptions : Generate.Options.ofRequest (testRequest false true) =
        .ok (testOptions .keychain) :=
      Generate.ofRequest_of_accepted rfl (inRange_testOptions .keychain) rfl rfl
    obtain ⟨pair, hpair⟩ := newPair_testOptions .keychain refusing
    have hfile : ¬ store.IsWritable (testOptions .keychain).name refusing := by
      intro hwritable
      cases hwritable.unrefused
    obtain ⟨fault, after, hstore⟩ := Generate.storeNew_of_not_isWritable hpair hfile
      fun _ => ⟨.memory, rfl, rfl, trivial⟩
    have hrun := (Generate.run_of_storeNew_error hstore none).1
    rw [← Generate.Request.run_of_ok hoptions] at hrun
    rcases failures_leave_stores.1 _ _ _ _ _ _ _ hrun (by rintro ⟨fund, ⟨⟩, -⟩) with
      ⟨hother, -⟩ | ⟨options, hother, hintact⟩
    · rw [hoptions] at hother
      cases hother
    · rw [hoptions] at hother
      obtain rfl := Except.ok.inj hother
      cases hintact with
      | unchanged hreported => cases hreported
      | unwritten hfills => exact absurd ⟨rfl, .memory, rfl, rfl⟩ hfills
      | filled _ hchosen _ _ _ _ hholds =>
        obtain rfl := Option.some.inj hchosen
        exact ⟨fault, after, _, hrun, hholds⟩
  · have hoptions : Generate.Options.ofRequest (testRequest false false) =
        .ok (testOptions .phrase) :=
      Generate.ofRequest_of_accepted rfl (inRange_testOptions .phrase) rfl rfl
    obtain ⟨pair, hpair⟩ := newPair_testOptions .phrase .bare
    have hfile : store.IsWritable (testOptions .phrase).name .bare :=
      (Store.Keeps.fresh Store.isFresh_bare fun _ => rfl).isWritable _ (by decide) rfl
    have hstored : ∃ secret middle, (Generate.storeNew (testOptions .phrase) store none).runOn .bare =
        (.ok (secret, none), middle) :=
      Generate.storeNew_succeeds hpair hfile (by rintro ⟨⟩)
    obtain ⟨secret, middle, hstore⟩ := hstored
    obtain ⟨found, hfound⟩ :=
      Generate.exists_pair_of_storeNew (inRange_testOptions .phrase) hstore
    obtain ⟨⟨after, -, hrun⟩, -⟩ := Generate.run_of_storeNew_ok hstore hfound (some rude)
    rw [← Generate.Request.run_of_ok hoptions] at hrun
    exact ⟨_, after, hrun, (failures_leave_stores.2.1 _ _ _ _ _ _ _ _ _ _ hoptions hstore hrun).2⟩
  · obtain ⟨failure, -, hsame | hreply⟩ := failures_leave_stores.2.2
      ["-q", "generate", "--no-fund", "--seed", "short", "a"] (.unreachable "") .bare (by decide)
      (by decide)
    · exact hsame
    · cases hreply

end NamedKeys
