import NamedKeys.Proofs.Keychain.Entries

/-!
# One keychain in the stead of another

The users of the platform's keychain share one table of texts.  For each of them it stands for a keychain
in memory of its own: what the table has under the name of the user are the octets there, in base 64
(`Mirrors`).  A call of the user has the same answer on both sides and keeps this (`Mirrors.own_call`), and
a call of another user keeps it too (`Mirrors.other_call`); so, by induction on the calls, whoever makes
them in whatever order:

    answers_interchange

An entry that was not written by the program may be any text, and reading it fails as a keychain if it
fails (`reading_error_family`).
-/

namespace NamedKeys.Keychain

open NamedKeys.Action

/-! ## Calls and answers -/

inductive Call where
  | read (entry : String)
  | write (entry : String) (octets : List UInt8)
  deriving DecidableEq, Repr

/-- What a call is answered with: the octets of an entry, or none if there are none or if it has been
written, or a failure. -/
abbrev Answer := Except Failure (Option (List UInt8))

def Call.on (keychain : Keychain) : Call → Action (Option (List UInt8))
  | read entry => keychain.read entry
  | write entry octets => do
    keychain.write entry octets
    return none

/-- The answers of a keychain to calls, one after the other. -/
def answers (keychain : Keychain) : List Call → World → List Answer
  | [], _ => []
  | call :: calls, world =>
    let (answer, after) := (call.on keychain).runOn world
    answer :: answers keychain calls after

variable {ι : Type}

/-- The answers of the platform's keychain to the calls of its users, in the order in which they are
made. -/
def sharedAnswers (user : ι → String) : List (ι × Call) → World → List (ι × Answer)
  | [], _ => []
  | (i, call) :: calls, world =>
    let (answer, after) := (call.on (system (user i))).runOn world
    (i, answer) :: sharedAnswers user calls after

def ofUser {α : Type} [DecidableEq ι] (i : ι) (all : List (ι × α)) : List α :=
  all.filterMap fun (j, a) => if j = i then some a else none

section OfUser

variable {α : Type} [DecidableEq ι] {i j : ι}

@[simp] theorem ofUser_cons_self (a : α) (all : List (ι × α)) :
    ofUser i ((i, a) :: all) = a :: ofUser i all := by
  simp [ofUser]

theorem ofUser_cons_of_ne (h : j ≠ i) (a : α) (all : List (ι × α)) :
    ofUser i ((j, a) :: all) = ofUser i all := by
  simp [ofUser, h]

end OfUser

/-! ## Reading and writing -/

theorem reading_error_family {keychain : Keychain} {world : World} {entry : String} {failure : Failure}
    (h : keychain.reading world entry = .error failure) : failure.family = .keychain := by
  unfold reading at h
  split at h
  · cases h
  · split at h
    · exact Except.error.inj h ▸ rfl
    · split at h
      · cases h
      · split at h
        · cases h
        · exact Except.error.inj h ▸ rfl

/-- An entry is not there if the table has no text for it, and is read as octets if the text is theirs in
base 64; for no other text it is read. -/
theorem reading_system_iff (user entry : String) {world : World}
    (hread : world.keyring.readRefusal = none) :
    ((system user).reading world entry = .ok none ↔
      world.keyring.passwords.lookup (entry, user) = none) ∧
    ∀ octets, (system user).reading world entry = .ok (some octets) ↔
      ∃ text, world.keyring.passwords.lookup (entry, user) = some text ∧
        Code.Base64.decode? .strict text.toList = some octets := by
  unfold reading user?
  dsimp only
  rw [hread]
  cases world.keyring.passwords.lookup (entry, user) with
  | none => simp
  | some text => cases hoctets : Code.Base64.decode? .strict text.toList <;> simp [hoctets]

theorem runOn_write (keychain : Keychain) (entry : String) (octets : List UInt8) (world : World)
    (haccepts : keychain.AcceptsWrites world) :
    ∃ after, (keychain.write entry octets).runOn world =
      (.ok (), keychain.putEntry after entry octets) ∧ World.SameStores world after := by
  obtain ⟨after, hsame, hrun | ⟨hrefuses, -⟩⟩ := write_cases keychain entry octets world
  · exact ⟨after, hrun, hsame⟩
  · exact absurd haccepts hrefuses

/-! ## The table of the platform and keychains in memory -/

/-- What the table has for a user is what a keychain in memory holds, in base 64. -/
structure Mirrors (user : String) (shared own : World) : Prop where
  readRefusal : shared.keyring.readRefusal = none
  writeRefusal : shared.keyring.writeRefusal = none
  entries : ∀ entry, shared.keyring.passwords.lookup (entry, user) =
    (own.memory.lookup entry).map (String.ofList ∘ Code.Base64.encode)

variable {user other : String} {shared own : World}

theorem Mirrors.congr {shared' own' : World} (h : Mirrors user shared own)
    (hshared : World.SameStores shared shared') (hown : World.SameStores own own') :
    Mirrors user shared' own' := by
  refine ⟨?_, ?_, ?_⟩
  · rw [hshared.keyring, h.readRefusal]
  · rw [hshared.keyring, h.writeRefusal]
  · rw [hshared.keyring, hown.memory]
    exact h.entries

/-- Octets are read back from their text. -/
theorem Mirrors.reading_eq (h : Mirrors user shared own) (entry : String) :
    (system user).reading shared entry = memory.reading own entry := by
  have hmemory : memory.reading own entry = .ok (own.memory.lookup entry) := rfl
  obtain ⟨hnone, hsome⟩ := reading_system_iff user entry h.readRefusal
  rw [hmemory]
  cases hheld : own.memory.lookup entry with
  | none => exact hnone.2 (by rw [h.entries, hheld]; rfl)
  | some octets =>
    refine (hsome octets).2 ⟨String.ofList (Code.Base64.encode octets), ?_, ?_⟩
    · rw [h.entries, hheld]
      rfl
    · rw [String.toList_ofList, Code.Base64.decode?_encode]

theorem Mirrors.putEntry (h : Mirrors user shared own) (entry : String) (octets : List UInt8) :
    Mirrors user ((system user).putEntry shared entry octets)
      (memory.putEntry own entry octets) := by
  refine ⟨h.readRefusal, h.writeRefusal, fun held => ?_⟩
  simp only [Keychain.putEntry, user?, Table.lookup_put, h.entries]
  by_cases heq : held = entry
  · simp [heq]
  · simp [heq]

theorem Mirrors.putEntry_other (h : Mirrors user shared own) (hother : other ≠ user) (entry : String)
    (octets : List UInt8) : Mirrors user ((system other).putEntry shared entry octets) own := by
  refine ⟨h.readRefusal, h.writeRefusal, fun held => ?_⟩
  have hne : ((held, user) == (entry, other)) = false :=
    beq_false_of_ne fun heq => hother (congrArg Prod.snd heq).symm
  simp only [Keychain.putEntry, user?, Table.lookup_put, hne, h.entries]
  rfl

/-- A call of the user has the same answer on both sides. -/
theorem Mirrors.own_call (h : Mirrors user shared own) (call : Call) :
    ((call.on (system user)).runOn shared).1 = ((call.on memory).runOn own).1 ∧
      Mirrors user ((call.on (system user)).runOn shared).2 ((call.on memory).runOn own).2 := by
  cases call with
  | read entry =>
    obtain ⟨after, hrun, hsame⟩ := runOn_read (system user) entry shared
    obtain ⟨after', hrun', hsame'⟩ := runOn_read memory entry own
    simp only [Call.on, hrun, hrun']
    exact ⟨h.reading_eq entry, h.congr hsame hsame'⟩
  | write entry octets =>
    obtain ⟨after, hrun, hsame⟩ := runOn_write (system user) entry octets shared h.writeRefusal
    obtain ⟨after', hrun', hsame'⟩ := runOn_write memory entry octets own trivial
    simp only [Call.on, runOn_bind_ok hrun, runOn_bind_ok hrun']
    exact ⟨rfl, (h.congr hsame hsame').putEntry entry octets⟩

/-- A call of another user does not matter. -/
theorem Mirrors.other_call (h : Mirrors user shared own) (hother : other ≠ user) (call : Call) :
    Mirrors user ((call.on (system other)).runOn shared).2 own := by
  cases call with
  | read entry =>
    obtain ⟨after, hrun, hsame⟩ := runOn_read (system other) entry shared
    simp only [Call.on, hrun]
    exact h.congr hsame (.refl own)
  | write entry octets =>
    obtain ⟨after, hrun, hsame⟩ := runOn_write (system other) entry octets shared h.writeRefusal
    simp only [Call.on, runOn_bind_ok hrun]
    exact (h.congr hsame (.refl own)).putEntry_other hother entry octets

/-- The answers to a user, from wherever the table mirrors its keychain in memory. -/
theorem Mirrors.ofUser_sharedAnswers [DecidableEq ι] {user : ι → String}
    (hinj : Function.Injective user) {i : ι} (calls : List (ι × Call)) {shared own : World}
    (h : Mirrors (user i) shared own) :
    ofUser i (sharedAnswers user calls shared) = answers memory (ofUser i calls) own := by
  induction calls generalizing shared own with
  | nil => rfl
  | cons first calls ih =>
    obtain ⟨j, call⟩ := first
    rw [sharedAnswers]
    by_cases hj : j = i
    · subst hj
      obtain ⟨hanswer, hafter⟩ := h.own_call call
      rw [ofUser_cons_self, ofUser_cons_self, answers, ih hafter, hanswer]
    · rw [ofUser_cons_of_ne hj, ofUser_cons_of_ne hj]
      exact ih (h.other_call (hinj.ne hj) call)

/-- Users with names of their own, who share a table of the platform that is empty at first, are each
answered as by a keychain in memory of their own, in whatever order all of them call.  Whatever text is put
into the table besides, reading it gives octets or fails as a keychain does, with no other failure. -/
theorem answers_interchange :
    (∀ (ι : Type) [DecidableEq ι] (user : ι → String), Function.Injective user →
      ∀ (calls : List (ι × Call)) (shared own : World), shared.keyring = ⟨[], none, none⟩ →
        own.memory = [] → ∀ i, ofUser i (sharedAnswers user calls shared) =
          answers memory (ofUser i calls) own) ∧
    ∀ (user entry : String) (world : World),
      let answer := (((system user).read entry).runOn world).1
      (∀ failure, answer = .error failure → failure.family = .keychain) ∧
      (world.keyring.readRefusal = none →
        (answer = .ok none ↔ world.keyring.passwords.lookup (entry, user) = none) ∧
        ∀ octets, answer = .ok (some octets) ↔
          ∃ text, world.keyring.passwords.lookup (entry, user) = some text ∧
            Code.Base64.decode? .strict text.toList = some octets) := by
  refine ⟨?_, fun user entry world => ?_⟩
  · intro ι _ user hinj calls shared own hshared hown i
    have hmirrors : Mirrors (user i) shared own := by
      refine ⟨by rw [hshared], by rw [hshared], fun entry => ?_⟩
      rw [hshared, hown]
      rfl
    exact hmirrors.ofUser_sharedAnswers hinj calls
  · obtain ⟨after, hrun, -⟩ := runOn_read (system user) entry world
    simp only [hrun]
    exact ⟨fun failure => reading_error_family, reading_system_iff user entry⟩

/-- A user reads what it has written although another has written the same entry since, and a text that
something else has put there. -/
theorem answers_interchange_two :
    let user (first : Bool) := if first then "a" else "b"
    let calls := [(true, Call.write "e" [0, 255]), (false, .write "e" [7]), (true, .read "e")]
    ofUser true (sharedAnswers user calls .bare) = [.ok none, .ok (some [0, 255])] ∧
      (((system "a").read "e").runOn
        { World.bare with keyring := ⟨[(("e", "a"), "AAE=")], none, none⟩ }).1 =
          .ok (some [0, 1]) := by
  intro user calls
  have hinj : Function.Injective user := by
    intro first second
    cases first <;> cases second <;> decide
  refine ⟨(answers_interchange.1 Bool user hinj calls .bare .bare rfl rfl true).trans rfl, ?_⟩
  exact (((answers_interchange.2 "a" "e" _).2 rfl).2 [0, 1]).2 ⟨"AAE=", rfl, by decide⟩

end NamedKeys.Keychain
