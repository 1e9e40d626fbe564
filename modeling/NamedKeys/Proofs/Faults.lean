import NamedKeys.Proofs.Generate.Prepare

/-!
# How actions fail

An action fails in certain ways only if it does so in every world; this composes (`FailsIn.bind`), so
that it is seen from the parts of an action.  A generation fails with a failure of the program's own
until it writes the file (`failsIn_prepare`), and the write fails with one of the file system
(`Store.failsIn_write`).
-/

namespace NamedKeys

namespace Action

/-- An action fails in certain ways only. -/
def FailsIn {α : Type} (P : Failure → Prop) (action : Action α) : Prop :=
  ∀ world failure, (action.runOn world).1 = .error failure → P failure

variable {α β : Type} {P : Failure → Prop}

theorem failsIn_pure (a : α) : FailsIn P (pure a : Action α) := by
  intro world failure h
  cases h

theorem failsIn_throw {failure : Failure} (h : P failure) : FailsIn P (throw failure : Action α) := by
  intro world other hother
  obtain rfl : failure = other := Except.error.inj hother
  exact h

theorem failsIn_get : FailsIn P (get : Action World) := by
  intro world failure h
  cases h

theorem failsIn_modify (f : World → World) : FailsIn P (modify f : Action PUnit) := by
  intro world failure h
  cases h

theorem failsIn_log (level : LogLevel) (message : String) : FailsIn P (log level message) :=
  failsIn_modify _

theorem failsIn_ofExcept {result : Except Failure α}
    (h : ∀ failure, result = .error failure → P failure) : FailsIn P (ofExcept result) := by
  intro world failure hrun
  rw [runOn_ofExcept] at hrun
  exact h failure hrun

theorem failsIn_ofFiles (h : ∀ fault, P (.file fault)) (result : Except FileFault α) :
    FailsIn P (ofFiles result) := by
  cases result with
  | ok a => exact failsIn_pure a
  | error fault => exact failsIn_throw (h fault)

theorem FailsIn.bind {action : Action α} {next : α → Action β} (h : FailsIn P action)
    (hnext : ∀ a, FailsIn P (next a)) : FailsIn P (action >>= next) := by
  intro world failure hrun
  match hfirst : action.runOn world with
  | (.ok a, after) =>
    rw [runOn_bind_ok hfirst] at hrun
    exact hnext a after failure hrun
  | (.error other, after) =>
    rw [runOn_bind_error hfirst] at hrun
    obtain rfl : other = failure := Except.error.inj hrun
    exact h world other (congrArg Prod.fst hfirst)

/-- What is always done last adds its own failures only. -/
theorem FailsIn.thenAlways {action : Action α} {last : Action Unit} (h : FailsIn P action)
    (hlast : FailsIn P last) : FailsIn P (thenAlways action last) := by
  intro world failure hrun
  rw [runOn_thenAlways] at hrun
  match hend : last.runOn (action.runOn world).2 with
  | (.ok (), after) =>
    rw [hend] at hrun
    exact h world failure hrun
  | (.error other, after) =>
    rw [hend] at hrun
    obtain rfl : other = failure := Except.error.inj hrun
    exact hlast _ other (congrArg Prod.fst hend)

/-! ## Failures of the file system -/

section Files

variable (h : ∀ fault, P (.file fault))

include h

theorem failsIn_ensureFolders (path : Path) : FailsIn P (ensureFolders path) :=
  failsIn_get.bind fun _ => (failsIn_modify _).bind fun _ => failsIn_ofFiles h _

theorem failsIn_discard (place : Place) : FailsIn P (discard place) := by
  refine (failsIn_get.bind fun _ => failsIn_pure _).bind fun files => ?_
  split
  · exact failsIn_modify _
  · exact failsIn_pure _
  · exact failsIn_throw (h _)

theorem failsIn_replace (source : Place) (path : Path) : FailsIn P (replace source path) := by
  refine failsIn_get.bind fun world => ?_
  split
  · exact failsIn_throw (h _)
  · exact (failsIn_ofFiles h _).bind fun _ => failsIn_modify _

theorem failsIn_withTempFile {folder : Place} {content : TempContent} {body : Place → Action α}
    (hbody : ∀ place, FailsIn P (body place)) : FailsIn P (withTempFile folder content body) := by
  refine FailsIn.bind ?_ fun place => (hbody place).thenAlways (failsIn_discard h place)
  exact (failsIn_get.bind fun _ => failsIn_pure _).bind fun _ => (failsIn_modify _).bind fun _ =>
    failsIn_pure _

theorem failsIn_writeAtOnce (path : Path) (text : List Char) : FailsIn P (writeAtOnce path text) :=
  (failsIn_ensureFolders h _).bind fun _ => failsIn_get.bind fun _ => (failsIn_ofFiles h _).bind
    fun _ => failsIn_withTempFile h fun place => failsIn_replace h place path

end Files

end Action

open NamedKeys.Action

/-- Writing an identity fails only as the file system does. -/
theorem Store.failsIn_write (store : Store) (name : IdentityName) (secret : Secret) :
    FailsIn (fun failure => ∃ fault, failure = .file fault) (store.write name secret) :=
  (failsIn_writeAtOnce (fun fault => ⟨fault, rfl⟩) _ _).bind fun _ => failsIn_log _ _

/-! ## The program's own failures -/

namespace KeyPair

theorem isReported_of_ofOctets {octets : List UInt8} {failure : Failure}
    (h : ofOctets octets = .error failure) : failure.isReported = true := by
  rcases ofOctets_error h with rfl | rfl <;> rfl

end KeyPair

namespace Keychain

theorem failsIn_readSystem (user entry : String) :
    FailsIn (·.isReported = true) (readSystem user entry) := by
  refine (failsIn_log _ _).bind fun _ => failsIn_get.bind fun world => ?_
  dsimp only
  split
  · exact failsIn_throw rfl
  · split
    · exact failsIn_pure _
    · split
      · exact failsIn_pure _
      · exact failsIn_throw rfl

theorem failsIn_read (keychain : Keychain) (entry : String) :
    FailsIn (·.isReported = true) (keychain.read entry) := by
  refine (failsIn_modify _).bind fun _ => ?_
  cases keychain with
  | memory => exact failsIn_get.bind fun world => failsIn_pure _
  | refusing cause => exact failsIn_get.bind fun world => failsIn_pure _
  | system user => exact failsIn_readSystem user entry

theorem failsIn_write (keychain : Keychain) (entry : String) (octets : List UInt8) :
    FailsIn (·.isReported = true) (keychain.write entry octets) := by
  refine (failsIn_modify _).bind fun _ => ?_
  cases keychain with
  | memory => exact failsIn_modify _
  | refusing cause => exact failsIn_throw rfl
  | system user =>
    refine (failsIn_log _ _).bind fun _ => failsIn_get.bind fun world => ?_
    split
    · exact failsIn_throw rfl
    · intro after failure h
      cases h

theorem failsIn_store (keychain : Keychain) (entry : String) (pair : KeyPair) :
    FailsIn (·.isReported = true) (keychain.store entry pair) := by
  refine (failsIn_read keychain entry).bind fun held => ?_
  cases held with
  | none =>
    exact (failsIn_log _ _).bind fun _ => (failsIn_write keychain entry _).bind fun _ =>
      failsIn_pure _
  | some octets =>
    exact (failsIn_ofExcept fun _ h => KeyPair.isReported_of_ofOctets h).bind fun _ =>
      (failsIn_log _ _).bind fun _ => failsIn_pure _

end Keychain

theorem failsIn_makePhrase (seed : Option String) :
    FailsIn (·.isReported = true) (makePhrase seed) := by
  have hphrase : ∀ entropy,
      FailsIn (·.isReported = true) (Action.ofExcept (phraseOfEntropy entropy)) := by
    intro entropy
    refine failsIn_ofExcept fun failure h => ?_
    rw [(phraseOfEntropy_eq_error_iff.1 h).2]
    rfl
  cases seed with
  | none =>
    refine (failsIn_log _ _).bind fun _ => FailsIn.bind ?_ hphrase
    refine failsIn_get.bind fun world => ?_
    split
    · exact failsIn_throw rfl
    · exact (failsIn_modify _).bind fun _ => failsIn_pure _
  | some seed => exact (failsIn_log _ _).bind fun _ => hphrase _

theorem isReported_of_checkIndex {path : Option Int} {failure : Failure}
    (h : checkIndex path = .error failure) : failure.isReported = true := by
  obtain ⟨index, -, -, rfl⟩ := checkIndex_eq_error_iff.1 h
  rfl

theorem failsIn_keyPairOfPhrase (phrase : String) (path : Option Int) :
    FailsIn (·.isReported = true) (keyPairOfPhrase phrase path) := by
  refine (failsIn_ofExcept fun _ h => isReported_of_checkIndex h).bind fun index => ?_
  dsimp only
  split
  · refine FailsIn.bind ?_ fun _ => (failsIn_log _ _).bind fun _ => failsIn_pure _
    exact failsIn_throw rfl
  · exact (failsIn_log _ _).bind fun _ => failsIn_pure _

namespace Generate

theorem failsIn_secretOf (options : Options) (phrase : String) :
    FailsIn (·.isReported = true) (secretOf options phrase) := by
  unfold secretOf
  split
  · exact failsIn_pure _
  · exact (failsIn_keyPairOfPhrase _ _).bind fun _ => failsIn_pure _
  · rw [Secret.parse_entryName options.name.hasForm]
    exact failsIn_pure _

theorem failsIn_fillEntry (options : Options) (phrase : String) (keychain : Option Keychain)
    (secret : Secret) : FailsIn (·.isReported = true) (fillEntry options phrase keychain secret) := by
  cases secret with
  | seedPhrase phrase => exact failsIn_pure _
  | secretKey text => exact failsIn_pure _
  | keychain entry =>
    cases keychain with
    | none => exact failsIn_throw rfl
    | some chosen =>
      exact (failsIn_log _ _).bind fun _ => (failsIn_keyPairOfPhrase _ _).bind fun pair =>
        chosen.failsIn_store entry pair

/-- Up to the write, a generation fails only with failures of the program's own. -/
theorem failsIn_prepare (options : Options) (keychain : Option Keychain) :
    FailsIn (·.isReported = true) (prepare options keychain) :=
  (failsIn_makePhrase _).bind fun _ => (failsIn_secretOf _ _).bind fun _ =>
    (failsIn_fillEntry _ _ _ _).bind fun _ => failsIn_pure _

end Generate

end NamedKeys
