import NamedKeys.Proofs.Store.Keeps

/-!
# A store is a map from names to secrets

Calls of the four operations, in any order and number, are answered as a map from names to secrets
answers them.  `MapStep` is the answer of the map to one call, and `MapRun` its answers to many:

    IsFresh store world → MapRun (fun _ => none) calls (outcomes store calls world)     (refines_map)

The map is related to the files by `Keeps`, which every call preserves (`Keeps.call`).
-/

namespace NamedKeys.Store

/-! ## Calls and answers -/

inductive Call where
  | write (name : IdentityName) (secret : Secret)
  | read (name : IdentityName)
  | remove (name : IdentityName)
  | list

/-- What a call that succeeds gives back. -/
inductive Answer where
  | done
  | secret (secret : Secret)
  | names (names : List String)
  deriving DecidableEq

namespace Call

def action (store : Store) : Call → Action Answer
  | write name secret => (fun _ => .done) <$> store.write name secret
  | read name => .secret <$> store.read name
  | remove name => (fun _ => .done) <$> store.remove name
  | list => .names <$> store.list

def name? : Call → Option String
  | write name _ | read name | remove name => some name.text
  | list => none

/-- A call with a name of 1 to 250 name characters, where what is written is read from some text. -/
def IsPlain : Call → Prop
  | write name secret => IsNameBody name.text.toList ∧ ∃ text, Secret.parse text = .ok secret
  | read name | remove name => IsNameBody name.text.toList
  | list => True

end Call

/-- The answers to calls, each from where the one before it ends, whether that one fails or not. -/
def outcomes (store : Store) : List Call → World → List (Except Failure Answer)
  | [], _ => []
  | call :: calls, world =>
    ((call.action store).runOn world).1 :: outcomes store calls ((call.action store).runOn world).2

def afterCalls (store : Store) (calls : List Call) (world : World) : World :=
  calls.foldl (fun world call => ((call.action store).runOn world).2) world

/-! ## The map -/

/-- The answer of a map from names to secrets to a call, and the map after it. -/
inductive MapStep (secrets : String → Option Secret) :
    Call → Except Failure Answer → (String → Option Secret) → Prop
  | write (name : IdentityName) (secret : Secret) :
    MapStep secrets (.write name secret) (.ok .done)
      (Function.update secrets name.text (some secret))
  | read (name : IdentityName) (secret : Secret) (h : secrets name.text = some secret) :
    MapStep secrets (.read name) (.ok (.secret secret)) secrets
  | readNone (name : IdentityName) (h : secrets name.text = none) :
    MapStep secrets (.read name) (.error (.identityNotFound name.text)) secrets
  | remove (name : IdentityName) (h : (secrets name.text).isSome = true) :
    MapStep secrets (.remove name) (.ok .done) (Function.update secrets name.text none)
  | removeNone (name : IdentityName) (h : secrets name.text = none) :
    MapStep secrets (.remove name) (.error (.identityNotFound name.text)) secrets
  | list (names : List String) (hsorted : names.Pairwise (· < ·))
      (hmem : ∀ name, name ∈ names ↔ (secrets name).isSome = true) :
    MapStep secrets .list (.ok (.names names)) secrets

/-- The answers of a map to calls one after the other. -/
inductive MapRun : (String → Option Secret) → List Call → List (Except Failure Answer) → Prop
  | nil (secrets : String → Option Secret) : MapRun secrets [] []
  | cons {secrets after : String → Option Secret} {call : Call} {calls : List Call}
      {outcome : Except Failure Answer} {outcomes : List (Except Failure Answer)}
      (hstep : MapStep secrets call outcome after) (hrest : MapRun after calls outcomes) :
    MapRun secrets (call :: calls) (outcome :: outcomes)

/-- A call changes the secret of no name but its own. -/
theorem MapStep.apply_of_ne {secrets after : String → Option Secret} {call : Call}
    {outcome : Except Failure Answer} (h : MapStep secrets call outcome after) {name : String}
    (hname : call.name? ≠ some name) : after name = secrets name := by
  cases h with
  | write other secret => exact Function.update_of_ne (fun heq => hname (congrArg some heq.symm)) _ _
  | read => rfl
  | readNone => rfl
  | remove other => exact Function.update_of_ne (fun heq => hname (congrArg some heq.symm)) _ _
  | removeNone => rfl
  | list => rfl

/-- A map answers a call in one way. -/
theorem MapStep.unique {secrets after after' : String → Option Secret} {call : Call}
    {outcome outcome' : Except Failure Answer} (h : MapStep secrets call outcome after)
    (h' : MapStep secrets call outcome' after') : outcome = outcome' ∧ after = after' := by
  cases h with
  | write =>
    cases h'
    exact ⟨rfl, rfl⟩
  | read name secret hsecret =>
    cases h' with
    | read _ other hother =>
      rw [hsecret] at hother
      rw [Option.some.inj hother]
      exact ⟨rfl, rfl⟩
    | readNone _ hnone =>
      rw [hsecret] at hnone
      cases hnone
  | readNone name hnone =>
    cases h' with
    | read _ other hother =>
      rw [hnone] at hother
      cases hother
    | readNone => exact ⟨rfl, rfl⟩
  | remove name hthere =>
    cases h' with
    | remove => exact ⟨rfl, rfl⟩
    | removeNone _ hnone =>
      rw [hnone] at hthere
      cases hthere
  | removeNone name hnone =>
    cases h' with
    | remove _ hthere =>
      rw [hnone] at hthere
      cases hthere
    | removeNone => exact ⟨rfl, rfl⟩
  | list names hsorted hmem =>
    cases h' with
    | list others hsorted' hmem' =>
      -- both lists are in order and have the same members
      have hdistinct : ∀ list : List String, list.Pairwise (· < ·) → list.Nodup := fun list h =>
        h.imp fun {a b} (hless : a < b) (heq : a = b) => String.lt_irrefl b (heq ▸ hless)
      have hperm : names.Perm others := (List.perm_ext_iff_of_nodup (hdistinct _ hsorted)
        (hdistinct _ hsorted')).2 fun name => (hmem name).trans (hmem' name).symm
      rw [hperm.eq_of_pairwise (fun _ _ _ _ hless hmore => absurd hmore (String.lt_asymm hless))
        hsorted hsorted']
      exact ⟨rfl, rfl⟩

/-- A map answers calls in one way. -/
theorem MapRun.unique {secrets : String → Option Secret} {calls : List Call}
    {outcomes outcomes' : List (Except Failure Answer)} (h : MapRun secrets calls outcomes)
    (h' : MapRun secrets calls outcomes') : outcomes = outcomes' := by
  induction h generalizing outcomes' with
  | nil =>
    cases h'
    rfl
  | cons hstep _ ih =>
    cases h' with
    | cons hstep' hrest' =>
      obtain ⟨rfl, rfl⟩ := hstep.unique hstep'
      rw [ih hrest']

/-! ## Refinement -/

section

variable {store : Store} {world : World} {secrets : String → Option Secret}

/-- What is kept, with no refusal of the file system. -/
def Serves (store : Store) (world : World) (secrets : String → Option Secret) : Prop :=
  store.Keeps world secrets ∧ world.replaceRefusal = none

/-- A call is answered as the map answers it, and keeps store and map together. -/
theorem Serves.call (h : store.Serves world secrets) {call : Call} (hcall : call.IsPlain) :
    ∃ after, MapStep secrets call ((call.action store).runOn world).1 after ∧
      store.Serves ((call.action store).runOn world).2 after := by
  obtain ⟨hkeeps, hreplace⟩ := h
  cases call with
  | write name secret =>
    obtain ⟨hname, text, hparse⟩ := hcall
    obtain ⟨files, log, hrun, hafter⟩ :=
      runOn_write hkeeps name hname.short (Secret.parse_text hparse) hreplace
    rw [Call.action, Action.runOn_map, hrun]
    exact ⟨_, .write name secret, hafter, hreplace⟩
  | read name =>
    have hrun := runOn_read hkeeps name hcall.short
    rw [Call.action, Action.runOn_map, hrun]
    cases hsecret : secrets name.text with
    | none => exact ⟨secrets, .readNone name hsecret, hkeeps, hreplace⟩
    | some secret => exact ⟨secrets, .read name secret hsecret, hkeeps, hreplace⟩
  | remove name =>
    rw [Call.action, Action.runOn_map]
    cases hsecret : secrets name.text with
    | none =>
      rw [runOn_remove_none hkeeps name hcall.short hsecret]
      exact ⟨secrets, .removeNone name hsecret, hkeeps, hreplace⟩
    | some secret =>
      obtain ⟨files, log, hrun, hafter⟩ := runOn_remove hkeeps name hsecret
      rw [hrun]
      exact ⟨_, .remove name (by rw [hsecret]; rfl), hafter, hreplace⟩
  | list =>
    obtain ⟨names, hrun, hsorted, hmem⟩ := runOn_list hkeeps
    rw [Call.action, Action.runOn_map, hrun]
    exact ⟨secrets, .list names hsorted hmem, hkeeps, hreplace⟩

theorem Serves.calls (h : store.Serves world secrets) {calls : List Call}
    (hcalls : ∀ call ∈ calls, call.IsPlain) :
    MapRun secrets calls (store.outcomes calls world) ∧
      ∃ after, store.Serves (store.afterCalls calls world) after := by
  induction calls generalizing world secrets with
  | nil => exact ⟨.nil secrets, secrets, h⟩
  | cons call calls ih =>
    obtain ⟨after, hstep, hafter⟩ := h.call (hcalls call List.mem_cons_self)
    obtain ⟨hrun, hlast⟩ := ih hafter fun other hother => hcalls other (List.mem_cons_of_mem _ hother)
    exact ⟨.cons hstep hrun, hlast⟩

/-- A call about one name does not change what is read under another. -/
theorem Serves.read_after_call (h : store.Serves world secrets) {call : Call} (hcall : call.IsPlain)
    {name : IdentityName} (hname : IsNameBody name.text.toList) (hother : call.name? ≠ some name.text) :
    ((store.read name).runOn ((call.action store).runOn world).2).1 =
      ((store.read name).runOn world).1 := by
  obtain ⟨after, hstep, hafter⟩ := h.call hcall
  rw [runOn_read hafter.1 name hname.short, runOn_read h.1 name hname.short,
    hstep.apply_of_ne hother]

end

/-- Calls on a fresh store are answered as a map from names to secrets answers them, and a call about
one name does not change what is read under another. -/
theorem refines_map {store : Store} {world : World} (hfresh : store.IsFresh world)
    (hreplace : world.replaceRefusal = none) {calls : List Call}
    (hcalls : ∀ call ∈ calls, call.IsPlain) :
    MapRun (fun _ => none) calls (store.outcomes calls world) ∧
      ∀ (call : Call) (name : IdentityName), call.IsPlain → IsNameBody name.text.toList →
        call.name? ≠ some name.text →
        ((store.read name).runOn (store.afterCalls (calls ++ [call]) world)).1 =
          ((store.read name).runOn (store.afterCalls calls world)).1 := by
  have hserves : store.Serves world fun _ => none := ⟨.fresh hfresh fun _ => rfl, hreplace⟩
  obtain ⟨hrun, after, hafter⟩ := hserves.calls hcalls
  refine ⟨hrun, fun call name hcall hname hother => ?_⟩
  rw [afterCalls, List.foldl_append]
  exact hafter.read_after_call hcall hname hother

/-- Two secrets are written, and one of them is read and removed. -/
theorem refines_map_bare :
    let store : Store := ⟨⟨"", ["store"]⟩⟩
    let a : IdentityName := ⟨"a", by decide⟩
    let b : IdentityName := ⟨"b", by decide⟩
    let entry : Secret := .keychain "keychain:radium226.identities-a"
    let key : Secret := .secretKey "SCZANGBA5YHTNYVVV4C3U252E2B6P6F5T3U6MM63WBSBZATAQI3EBTQ4"
    let calls : List Call := [.write a entry, .write b key, .read a, .remove a, .list]
    store.outcomes calls .bare =
        [.ok .done, .ok .done, .ok (.secret entry), .ok .done, .ok (.names ["b"])] ∧
      ((store.read b).runOn (store.afterCalls (calls ++ [.write a key]) .bare)).1 =
        ((store.read b).runOn (store.afterCalls calls .bare)).1 := by
  intro store a b entry key calls
  have ha : IsNameBody "a".toList := isNameForm_iff.1 (by decide : isNameForm ['a'] = true)
  have hb : IsNameBody "b".toList := isNameForm_iff.1 (by decide : isNameForm ['b'] = true)
  have hkey : Secret.parse key.text = .ok key := by decide +kernel
  have hcalls : ∀ call ∈ calls, call.IsPlain := by
    simp only [calls, List.forall_mem_cons]
    exact ⟨⟨ha, entry.text, by decide⟩, ⟨hb, key.text, hkey⟩, ha, ha, trivial, by simp⟩
  obtain ⟨hrun, hframe⟩ := refines_map isFresh_bare rfl hcalls
  refine ⟨hrun.unique ?_, hframe (.write a key) b ⟨ha, key.text, hkey⟩ hb (by decide)⟩
  refine .cons (.write a entry) <| .cons (.write b key) <| .cons (.read a entry (by decide)) <|
    .cons (.remove a (by decide)) <| .cons (.list ["b"] (List.pairwise_singleton _ _) ?_) (.nil _)
  intro name
  have hother : name = "b" → name ≠ "a" := by
    rintro rfl
    decide
  simp only [a, b, Function.update_apply, List.mem_singleton]
  split <;> simp_all

/-- A root that leads back out of the file of an identity: making the root makes a folder in the
place of that file. -/
def windingStore : Store :=
  ⟨⟨"", ["identity", "a.yaml", "..", ".."]⟩⟩

/-- The folder of such a store can be made and no call fails, but a name is listed that has never been
written. -/
theorem not_map_windingStore :
    let b : IdentityName := ⟨"b", by decide⟩
    let entry : Secret := .keychain "keychain:radium226.identities-b"
    World.bare.files.entryAt World.bare.folder windingStore.folder = .ok none ∧
    (World.bare.files.ensureFolders World.bare.folder windingStore.root).2 = .ok () ∧
    (World.bare.files.ensureFolders World.bare.folder windingStore.folder).2 = .ok () ∧
    World.bare.replaceRefusal = none ∧ Call.IsPlain (.write b entry) ∧
    (∃ names, windingStore.outcomes [.write b entry, .list] .bare = [.ok .done, .ok (.names names)] ∧
      "a" ∈ names) ∧
    ¬ MapRun (fun _ => none) [.write b entry, .list]
        (windingStore.outcomes [.write b entry, .list] .bare) := by
  intro b entry
  have hb : IsNameBody "b".toList := isNameForm_iff.1 (by decide : isNameForm ['b'] = true)
  have hplain : Call.IsPlain (.write b entry) := ⟨hb, entry.text, by decide⟩
  obtain ⟨names, houtcomes, hnames⟩ : ∃ names,
      windingStore.outcomes [.write b entry, .list] .bare = [.ok .done, .ok (.names names)] ∧
        "a" ∈ names := by
    let after := (((Call.write b entry).action windingStore).runOn World.bare).2
    let listed := ((after.files.namesIn ["identity"]).filterMap nameOfFile?).mergeSort
      fun a b => decide (a ≤ b)
    have hdone : (((Call.write b entry).action windingStore).runOn World.bare).1 = .ok .done := by
      decide +kernel
    have hlist : windingStore.list.runOn after = (.ok listed, after) := runOn_list_folder
      (by decide +kernel : after.files.locate after.folder windingStore.folder = .ok ["identity"])
      (by decide +kernel)
    have hlisted : ((Call.list.action windingStore).runOn after).1 = .ok (.names listed) := by
      rw [Call.action, Action.runOn_map, hlist]
    refine ⟨listed, by rw [outcomes, outcomes, outcomes, hdone, hlisted], ?_⟩
    rw [List.mem_mergeSort]
    decide +kernel
  refine ⟨by decide, by decide, by decide, rfl, hplain, ⟨names, houtcomes, hnames⟩, fun hrun => ?_⟩
  -- the map answers with the one name that has been written
  have hmap : MapRun (fun _ => none) [.write b entry, .list] [.ok .done, .ok (.names ["b"])] := by
    refine .cons (.write b entry) (.cons (.list ["b"] (List.pairwise_singleton _ _) ?_) (.nil _))
    intro name
    simp only [b, Function.update_apply, List.mem_singleton]
    split <;> simp_all
  rw [houtcomes] at hrun
  obtain rfl : names = ["b"] := by
    simpa using hrun.unique hmap
  exact absurd hnames (by decide)

end NamedKeys.Store
