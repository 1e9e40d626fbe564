import NamedKeys.Proofs.Generate.Forms
import NamedKeys.Proofs.Log

/-!
# What the log hides

Two generations that differ only in the text of the seed, in the random octets and in what the entries of
the keychain hold, add the same records to their logs, as long as the addresses that can be seen are the
same: those of the pairs that are found in the keychain, and those that are funded.  So seeds, phrases and
secret keys are told to nobody who reads the log:

    log_hides_secrets
-/

namespace NamedKeys

open NamedKeys.Action

namespace Generate

def Options.seeded (options : Options) (seed : Option String) : Options :=
  { options with seed }

def Request.seeded (request : Request) (seed : Option String) : Request :=
  { request with seed }

/-- A request has entropy of an accepted length. -/
def Request.IsSeeded (request : Request) (world : World) : Prop :=
  ∃ entropy, request.HasEntropy world entropy ∧
    Mnemonic.entropyLengths.contains entropy.length = true

variable {options : Options} {store : Store} {keychain : Option Keychain} {world other : World}
  {first second : Option String}

/-! ## Making a phrase and a secret -/

/-- It is told whether there is a seed, but nothing of its text. -/
theorem log_makePhrase (hseeds : first.isSome = second.isSome) :
    ∃ record, ∀ world, ((makePhrase first).runOn world).2.log = world.log ++ [record] ∧
      ((makePhrase second).runOn world).2.log = world.log ++ [record] := by
  have hgiven : ∀ (seed : String) (world : World), ((makePhrase (some seed)).runOn world).2.log =
      world.log ++ [⟨.debug, "Generating seed phrase from the given seed... "⟩] := by
    intro seed world
    unfold makePhrase
    dsimp only
    rw [runOn_log_bind, runOn_ofExcept]
    rfl
  have hrandom : ∀ world : World, ((makePhrase none).runOn world).2.log =
      world.log ++ [⟨.debug, "Generating seed phrase from random entropy... "⟩] := by
    intro world
    unfold makePhrase draw
    dsimp only
    rw [runOn_log_bind, bind_assoc, runOn_bind_ok (runOn_get _)]
    have hrandomness : ((log .debug "Generating seed phrase from random entropy... ").runOn
        world).2.randomness = world.randomness := rfl
    rw [hrandomness]
    cases world.randomness with
    | nil => rfl
    | cons octets rest =>
      dsimp only
      rw [bind_assoc, runOn_bind_ok (runOn_modify _ _), pure_bind, runOn_ofExcept]
      rfl
  cases first with
  | none =>
    cases second with
    | none => exact ⟨_, fun world => ⟨hrandom world, hrandom world⟩⟩
    | some seed => cases hseeds
  | some seed =>
    cases second with
    | none => cases hseeds
    | some seed' => exact ⟨_, fun world => ⟨hgiven seed world, hgiven seed' world⟩⟩

theorem tellAlike_makePhrase {Q : String → String → Prop} (hseeds : first.isSome = second.isSome) :
    TellAlike (fun world other => EndAlike Q (newPhrase first world) (newPhrase second other))
      (makePhrase first) (makePhrase second) Q := by
  intro world other hphrases
  obtain ⟨record, hlog⟩ := log_makePhrase hseeds
  refine ⟨?_, [record], (hlog world).1, (hlog other).2⟩
  rw [runOn_makePhrase, runOn_makePhrase]
  exact hphrases

theorem keeps_secretOf (options : Options) (phrase : String) :
    Keeps World.SameStores (secretOf options phrase) := by
  unfold secretOf
  split
  · exact keeps_pure _
  · exact (keeps_keyPairOfPhrase _ _).bind fun _ => keeps_pure _
  · exact keeps_ofExcept _

variable {P : World → World → Prop} {phrase phrase' : String}

theorem tellAlike_secretOf (h : Mnemonic.isPhrase phrase = Mnemonic.isPhrase phrase') :
    TellAlike P (secretOf (options.seeded first) phrase) (secretOf (options.seeded second) phrase')
      Secret.Alike := by
  cases hform : options.form with
  | keychain =>
    have hfirst : (options.seeded first).form = .keychain := hform
    have hsecond : (options.seeded second).form = .keychain := hform
    rw [secretOf_keychain hfirst, secretOf_keychain hsecond]
    exact tellAlike_pure (.keychain _)
  | phrase =>
    simp only [secretOf, Options.seeded, hform]
    exact tellAlike_pure (.seedPhrase _ _)
  | secretKey =>
    simp only [secretOf, Options.seeded, hform]
    exact (tellAlike_keyPairOfPhrase h options.path).bind_any fun _ _ _ =>
      tellAlike_pure (.secretKey _ _)

theorem tellAlike_fillEntry (h : Mnemonic.isPhrase phrase = Mnemonic.isPhrase phrase')
    {secret secret' : Secret} (halike : secret.Alike secret') :
    TellAlike (World.LookAlike keychain) (fillEntry (options.seeded first) phrase keychain secret)
      (fillEntry (options.seeded second) phrase' keychain secret') Eq := by
  cases halike with
  | seedPhrase => exact tellAlike_pure rfl
  | secretKey => exact tellAlike_pure rfl
  | keychain entry =>
    cases keychain with
    | none => exact tellAlike_throw _ _
    | some chosen =>
      refine (tellAlike_log _ _).bind (keeps_log _ _) (keeps_log _ _) fun _ _ _ => ?_
      exact (tellAlike_keyPairOfPhrase h options.path).bind (keeps_keyPairOfPhrase _ _)
        (keeps_keyPairOfPhrase _ _) fun pair pair' _ => chosen.tellAlike_store entry pair pair'

/-! ## Storing the identity -/

/-- Two worlds look alike to a keychain, and two seeds give phrases there, or none, alike. -/
structure StartAlike (keychain : Option Keychain) (first second : Option String)
    (world other : World) : Prop where
  worlds : World.LookAlike keychain world other
  phrases : EndAlike (fun phrase phrase' => Mnemonic.isPhrase phrase = Mnemonic.isPhrase phrase')
    (newPhrase first world) (newPhrase second other)

theorem tellAlike_prepare (hseeds : first.isSome = second.isSome) :
    TellAlike (StartAlike keychain first second) (prepare (options.seeded first) keychain)
      (prepare (options.seeded second) keychain) fun prepared prepared' =>
        prepared.1.Alike prepared'.1 := by
  refine ((tellAlike_makePhrase hseeds).mono fun _ _ h => h.phrases).bind_step
    (S := World.LookAlike keychain) (fun world other h => ?_) fun phrase phrase' hphrases => ?_
  · exact World.IsView.congr (keeps_makePhrase first world) (keeps_makePhrase second other) h.worlds
  · refine (tellAlike_secretOf hphrases).bind (keeps_secretOf _ _) (keeps_secretOf _ _)
      fun secret secret' halike => ?_
    exact (tellAlike_fillEntry hphrases halike).bind_any fun _ _ _ => tellAlike_pure halike

theorem tellAlike_storeNew (options : Options) (store : Store)
    (hseeds : first.isSome = second.isSome) :
    TellAlike (StartAlike keychain first second) (storeNew (options.seeded first) store keychain)
      (storeNew (options.seeded second) store keychain) fun stored stored' =>
        stored.1.Alike stored'.1 := by
  rw [storeNew_eq, storeNew_eq]
  refine (tellAlike_prepare hseeds).bind_step (S := World.SameTree) (fun world other h => ?_)
    fun prepared prepared' halike => ?_
  · have hfirst := (prepared (options.seeded first) keychain world).keeps.1
    have hsecond := (prepared (options.seeded second) keychain other).keeps.1
    exact (hfirst.sameTree.symm.trans h.worlds.sameTree).trans hsecond.sameTree
  · exact (store.tellAlike_write _ _ _).bind_any fun _ _ _ => tellAlike_pure halike

/-! ## Funding -/

/-- What is told of funding depends on the address alone. -/
theorem log_tryFund (fund : Funder) (address : String) :
    ∃ records, ∀ world, ((tryFund fund address).runOn world).2.log = world.log ++ records := by
  have hfund : ∀ world, (attempt (Action.fund fund address)).runOn world =
      (.ok (fund address).result, { world with
        log := world.log ++ (fund address).log
        requests := world.requests ++ (fund address).requests }) := by
    intro world
    rw [runOn_attempt, Action.fund, runOn_bind_ok (runOn_modify _ _), runOn_ofExcept]
  have hrun : ∀ world, (tryFund fund address).runOn world = _ := fun world => runOn_bind_ok (hfund world)
  cases hresult : (fund address).result with
  | ok done => exact ⟨(fund address).log, fun world => by rw [hrun, hresult]; rfl⟩
  | error failure =>
    by_cases hfamily : failure.family = .network
    · refine ⟨(fund address).log ++
        [⟨.warning, "Funding " ++ address ++ " failed: " ++ failure.message⟩], fun world => ?_⟩
      rw [hrun, hresult]
      dsimp only
      rw [if_pos hfamily, runOn_log_bind, ← List.append_assoc]
      rfl
    · refine ⟨(fund address).log, fun world => ?_⟩
      rw [hrun, hresult]
      dsimp only
      rw [if_neg hfamily]
      rfl

/-- Of two identities that look alike and have been stored it is told which address is funded. -/
theorem toldSame_announce {stored stored' : Secret × Option String} {pair pair' : KeyPair}
    (halike : stored.1.Alike stored'.1)
    (hpair : pairOfSecret world stored.1 options.path keychain = .ok pair)
    (hpair' : pairOfSecret other stored'.1 options.path keychain = .ok pair') {funder : Option Funder}
    (haddress : ∀ fund ∈ options.called funder, pair.address = pair'.address) :
    World.ToldSame world
      ((announce (options.seeded first) keychain funder stored).runOn world).2 other
      ((announce (options.seeded second) keychain funder stored').runOn other).2 := by
  have hfirst : (options.seeded first).called funder = options.called funder := rfl
  have hsecond : (options.seeded second).called funder = options.called funder := rfl
  unfold announce
  rw [← Options.called, ← Options.called, hfirst, hsecond]
  cases hcalled : options.called funder with
  | none => exact .of_eq rfl rfl
  | some fund =>
    obtain ⟨-, htold⟩ := tellAlike_keyPairOfSecret halike options.path keychain world other
      ⟨pair, pair', hpair, hpair'⟩
    obtain ⟨middle, hderive⟩ := exists_of_runOn_fst
      ((runOn_keyPairOfSecret stored.1 options.path keychain world).trans hpair)
    obtain ⟨middle', hderive'⟩ := exists_of_runOn_fst
      ((runOn_keyPairOfSecret stored'.1 options.path keychain other).trans hpair')
    rw [hderive, hderive'] at htold
    obtain ⟨records, hfund⟩ := log_tryFund fund pair.address
    refine htold.trans ⟨records, ?_, ?_⟩
    · dsimp only [Options.seeded]
      rw [runOn_bind_ok hderive, bind_pure_comp, runOn_map_snd]
      exact hfund middle
    · dsimp only [Options.seeded]
      rw [runOn_bind_ok hderive', bind_pure_comp, runOn_map_snd, ← haddress fund hcalled]
      exact hfund middle'

theorem toldSame_run {funder : Option Funder}
    (hpath : ∀ index ∈ options.path, 0 ≤ index ∧ index < 2 ^ 31)
    (hseeds : first.isSome = second.isSome) (hstart : StartAlike keychain first second world other)
    (hcalls : addressesFunded (run (options.seeded first) store keychain) funder world =
      addressesFunded (run (options.seeded second) store keychain) funder other) :
    World.ToldSame world ((run (options.seeded first) store keychain funder).runOn world).2 other
      ((run (options.seeded second) store keychain funder).runOn other).2 := by
  obtain ⟨hends, htold⟩ := tellAlike_storeNew options store hseeds world other hstart
  rcases hstore : (storeNew (options.seeded first) store keychain).runOn world with ⟨result, after⟩
  rcases hstore' : (storeNew (options.seeded second) store keychain).runOn other with ⟨result', last⟩
  rw [hstore, hstore'] at hends htold
  cases hends with
  | error failure failure' =>
    rw [(run_of_storeNew_error hstore funder).1, (run_of_storeNew_error hstore' funder).1]
    exact htold
  | @ok stored stored' halike =>
    have hseeded : ∀ seed, ∀ index ∈ (options.seeded seed).path, 0 ≤ index ∧ index < 2 ^ 31 :=
      fun _ => hpath
    obtain ⟨pair, hpair⟩ := exists_pair_of_storeNew (hseeded first) hstore
    obtain ⟨pair', hpair'⟩ := exists_pair_of_storeNew (hseeded second) hstore'
    rw [(run_of_storeNew_ok hstore hpair funder).2, (run_of_storeNew_ok hstore' hpair' funder).2]
      at hcalls
    have haddress : ∀ fund ∈ options.called funder, pair.address = pair'.address := by
      intro fund hcalled
      have hfirst : (options.seeded first).called funder = some fund := hcalled
      have hsecond : (options.seeded second).called funder = some fund := hcalled
      rw [hfirst, hsecond] at hcalls
      exact (List.cons.inj hcalls).1
    rw [run_eq, run_eq, runOn_bind_ok hstore, runOn_bind_ok hstore']
    exact htold.trans (toldSame_announce halike hpair hpair' haddress)

/-! ## Requests -/

theorem ofRequest_seeded {request : Request} {seed : Option String}
    (h : (seed.isSome && request.useTestSeed) = false) :
    Options.ofRequest (request.seeded seed) =
      (Options.ofRequest (request.seeded none)).map fun options =>
        options.seeded (request.seeded seed).chosenSeed := by
  unfold Options.ofRequest Request.seeded
  cases IdentityName.ofText request.name with
  | error failure => rfl
  | ok name =>
    cases checkIndex request.path with
    | error failure => rfl
    | ok index =>
      simp only [bind, Except.bind, h, Option.isSome_none, Bool.false_and, Bool.false_eq_true, if_false]
      split <;> rfl

/-- Two requests with seeds, or with random octets, look alike if they differ in the seeds alone. -/
theorem startAlike_of_isSeeded {request : Request} (hfirst : (request.seeded first).IsSeeded world)
    (hsecond : (request.seeded second).IsSeeded other)
    (hworlds : World.LookAlike keychain world other) :
    StartAlike keychain (request.seeded first).chosenSeed (request.seeded second).chosenSeed world
      other := by
  obtain ⟨entropy, hentropy, hlength⟩ := hfirst
  obtain ⟨entropy', hentropy', hlength'⟩ := hsecond
  refine ⟨hworlds, ?_⟩
  rw [hentropy.newPhrase hlength, hentropy'.newPhrase hlength']
  refine .ok ?_
  rw [Mnemonic.isPhrase_phraseOfEntropy hlength, Mnemonic.isPhrase_phraseOfEntropy hlength']

theorem isSome_chosenSeed (request : Request) (hseeds : first.isSome = second.isSome) :
    (request.seeded first).chosenSeed.isSome = (request.seeded second).chosenSeed.isSome := by
  unfold Request.chosenSeed Request.seeded
  dsimp only
  split
  · rfl
  · exact hseeds

/-- Without a funder no address is funded. -/
theorem addressesFunded_none (request : Request) (store : Store) (keychain : Option Keychain)
    (world : World) : addressesFunded (request.run store keychain) none world = [] := by
  let funding : Funding := ⟨request.fund, request.noFund, none⟩
  rcases run_funded_cases request store keychain world with
    ⟨_, _, hfails⟩ | ⟨_, _, _, _, _, _, _, hends⟩
  · exact (hfails funding).2
  · have hcalled : funding.called = none := ite_self _
    have hcalls := (hends funding).2
    rw [hcalled] at hcalls
    exact hcalls

theorem toldSame_request {request : Request} {funder : Option Funder}
    (hseeds : first.isSome = second.isSome) (hfirst : (request.seeded first).IsSeeded world)
    (hsecond : (request.seeded second).IsSeeded other)
    (hworlds : World.LookAlike keychain world other)
    (hcalls : addressesFunded ((request.seeded first).run store keychain) funder world =
      addressesFunded ((request.seeded second).run store keychain) funder other) :
    World.ToldSame world (((request.seeded first).run store keychain funder).runOn world).2 other
      (((request.seeded second).run store keychain funder).runOn other).2 := by
  have hstart := startAlike_of_isSeeded hfirst hsecond hworlds
  obtain ⟨entropy, hentropy, -⟩ := hfirst
  obtain ⟨entropy', hentropy', -⟩ := hsecond
  have hone : (first.isSome && request.useTestSeed) = false := hentropy.oneSeed
  have hone' : (second.isSome && request.useTestSeed) = false := hentropy'.oneSeed
  have hoptions := ofRequest_seeded hone
  have hoptions' := ofRequest_seeded hone'
  cases hgranted : Options.ofRequest (request.seeded none) with
  | error failure =>
    rw [hgranted] at hoptions hoptions'
    rw [Request.run_of_error hoptions, Request.run_of_error hoptions']
    exact .of_eq rfl rfl
  | ok options =>
    rw [hgranted] at hoptions hoptions'
    rw [Request.run_of_ok hoptions, Request.run_of_ok hoptions'] at hcalls ⊢
    exact toldSame_run (ofRequest_ok hgranted).inRange (isSome_chosenSeed request hseeds) hstart hcalls

end Generate

/-- Two generations as one request asks but for its seed, in worlds that look alike to the keychain, add the
same records to the log if they fund the same address or none.  So do two writes of secrets under one name
that succeed, and two derivations at one path that succeed, from secrets of one kind which are entries of
one name if they are entries. -/
theorem log_hides_secrets (store : Store) (keychain : Option Keychain) (world other : World) :
    (∀ (request : Generate.Request) (first second : Option String) (funder : Option Funder),
      first.isSome = second.isSome → (request.seeded first).IsSeeded world →
      (request.seeded second).IsSeeded other → World.LookAlike keychain world other →
      addressesFunded ((request.seeded first).run store keychain) funder world =
        addressesFunded ((request.seeded second).run store keychain) funder other →
      World.ToldSame world (((request.seeded first).run store keychain funder).runOn world).2 other
        (((request.seeded second).run store keychain funder).runOn other).2) ∧
    ∀ secret secret' : Secret, secret.Alike secret' →
      (∀ name, ((store.write name secret).runOn world).1 = .ok () →
        ((store.write name secret').runOn other).1 = .ok () →
        World.ToldSame world ((store.write name secret).runOn world).2 other
          ((store.write name secret').runOn other).2) ∧
      ∀ path pair pair', ((keyPairOfSecret secret path keychain).runOn world).1 = .ok pair →
        ((keyPairOfSecret secret' path keychain).runOn other).1 = .ok pair' →
        World.ToldSame world ((keyPairOfSecret secret path keychain).runOn world).2 other
          ((keyPairOfSecret secret' path keychain).runOn other).2 := by
  refine ⟨fun request first second funder hseeds hfirst hsecond hworlds hcalls =>
    Generate.toldSame_request hseeds hfirst hsecond hworlds hcalls, fun secret secret' halike =>
    ⟨fun name hwrite hwrite' => ?_, fun path pair pair' hpair hpair' => ?_⟩⟩
  · obtain ⟨record, hlog⟩ := store.log_write name
    exact ⟨[record], (hlog secret world).1 hwrite, (hlog secret' other).1 hwrite'⟩
  · rw [runOn_keyPairOfSecret] at hpair hpair'
    exact (tellAlike_keyPairOfSecret halike path keychain world other
      ⟨pair, pair', hpair, hpair'⟩).told

def keychainRequest : Generate.Request :=
  ⟨"a", none, false, false, true, some 7, false, false⟩

/-- Two seeds for one entry in memory, two texts written under one name, and two secret keys. -/
theorem log_hides_secrets_keychainRequest :
    let store : Store := ⟨⟨"", ["store"]⟩⟩
    let first := (keychainRequest.seeded (some "0000000000000000")).run store (some .memory) none
    let second := (keychainRequest.seeded (some "1111111111111111")).run store (some .memory) none
    let write := store.write ⟨"a", by decide⟩ (.secretKey "0")
    let write' := store.write ⟨"a", by decide⟩ (.secretKey "1")
    let pair := KeyPair.ofSecretKey (List.replicate 32 0)
    let pair' := KeyPair.ofSecretKey (List.replicate 32 1)
    let derive := keyPairOfSecret (.secretKey pair.secret) (some 3) none
    let derive' := keyPairOfSecret (.secretKey pair'.secret) (some 3) none
    World.ToldSame .bare (first.runOn .bare).2 .bare (second.runOn .bare).2 ∧
      World.ToldSame .bare (write.runOn .bare).2 .bare (write'.runOn .bare).2 ∧
      World.ToldSame .bare (derive.runOn .bare).2 .bare (derive'.runOn .bare).2 := by
  intro store first second write write' pair pair' derive derive'
  have hseeded : ∀ seed : String, Mnemonic.entropyLengths.contains
      (Text.Utf8.encode seed.toList).length = true → (keychainRequest.seeded (some seed)).IsSeeded .bare :=
    fun seed hlength => ⟨_, .seed rfl rfl, hlength⟩
  have halike : World.LookAlike (some .memory) .bare .bare := by
    refine ⟨World.SameStores.sameTree (.refl _), fun _ _ => Iff.rfl, ?_⟩
    rintro chosen ⟨⟩ entry
    exact .ok .absent
  have hwritable : store.IsWritable ⟨"a", by decide⟩ .bare :=
    (Store.Keeps.fresh Store.isFresh_bare fun _ => rfl).isWritable _ (by decide) rfl
  have hderived : ∀ digit, ((keyPairOfSecret
      (.secretKey (KeyPair.ofSecretKey (List.replicate 32 digit)).secret) (some 3) none).runOn .bare).1 =
        .ok (.ofSecretKey (List.replicate 32 digit)) := by
    intro digit
    rw [runOn_keyPairOfSecret, pairOfSecret_secretKey, KeyPair.ofKeyText_secret List.length_replicate]
  obtain ⟨hgenerate, -⟩ := log_hides_secrets store (some .memory) .bare .bare
  obtain ⟨-, hsecrets⟩ := log_hides_secrets store none .bare .bare
  refine ⟨hgenerate keychainRequest _ _ none rfl (hseeded _ (by decide)) (hseeded _ (by decide)) halike ?_,
    (hsecrets _ _ (.secretKey "0" "1")).1 _ ?_ ?_,
    (hsecrets _ _ (.secretKey _ _)).2 _ _ _ (hderived 0) (hderived 1)⟩
  · rw [Generate.addressesFunded_none, Generate.addressesFunded_none]
  · exact (Store.write_ok_iff _).2 hwritable
  · exact (Store.write_ok_iff _).2 hwritable

end NamedKeys
