import NamedKeys.Proofs.Derivation
import NamedKeys.Proofs.Store.Write

/-!
# Runs that tell the same

Two actions, each run in a world of its own, tell the same if they add the same records to the two logs and
end alike: both fail, or both succeed with values that are related (`TellAlike`).  This composes
(`TellAlike.bind`), so that two runs are compared part by part.  When a pair is derived, nothing is told of a
phrase or a secret key, and of an entry of a keychain only its name (`tellAlike_keyPairOfSecret`); when a pair
is stored in an entry, the address of one that is found (`Keychain.tellAlike_store`); and when an identity is
written, its name and its file (`Store.tellAlike_write`).
-/

namespace NamedKeys

/-- The same records have been added to two logs. -/
def World.ToldSame (world after other last : World) : Prop :=
  ∃ records, after.log = world.log ++ records ∧ last.log = other.log ++ records

theorem World.ToldSame.of_eq {world after other last : World} (h : after.log = world.log)
    (h' : last.log = other.log) : ToldSame world after other last :=
  ⟨[], by rw [h, List.append_nil], by rw [h', List.append_nil]⟩

theorem World.ToldSame.trans {world middle after other middle' last : World}
    (h : ToldSame world middle other middle') (h' : ToldSame middle after middle' last) :
    ToldSame world after other last := by
  obtain ⟨records, hmiddle, hmiddle'⟩ := h
  obtain ⟨more, hafter, hlast⟩ := h'
  refine ⟨records ++ more, ?_, ?_⟩
  · rw [hafter, hmiddle, List.append_assoc]
  · rw [hlast, hmiddle', List.append_assoc]

/-- A relation of two worlds that looks at files and keychains only. -/
class World.IsView (P : World → World → Prop) : Prop where
  congr : ∀ {world middle other last}, SameStores world middle → SameStores other last →
    P world other → P middle last

instance : World.IsView World.SameTree where
  congr h h' hsame := (h.sameTree.symm.trans hsame).trans h'.sameTree

namespace Action

variable {α β γ δ : Type}

/-- Two results are both failures, or both are there and related. -/
inductive EndAlike (Q : α → β → Prop) : Except Failure α → Except Failure β → Prop
  | error (failure failure' : Failure) : EndAlike Q (.error failure) (.error failure')
  | ok {a : α} {b : β} (h : Q a b) : EndAlike Q (.ok a) (.ok b)

/-- Two runs have told the same. -/
structure ToldAlike (Q : α → β → Prop) (world other : World) (run : Except Failure α × World)
    (run' : Except Failure β × World) : Prop where
  ends : EndAlike Q run.1 run'.1
  told : World.ToldSame world run.2 other run'.2

/-- Run in two worlds that a relation holds of, two actions tell the same. -/
def TellAlike (P : World → World → Prop) (action : Action α) (action' : Action β)
    (Q : α → β → Prop) : Prop :=
  ∀ world other, P world other →
    ToldAlike Q world other (action.runOn world) (action'.runOn other)

variable {P S : World → World → Prop} {Q : α → β → Prop} {R : γ → δ → Prop}

theorem tellAlike_pure {a : α} {b : β} (h : Q a b) : TellAlike P (pure a) (pure b) Q :=
  fun _ _ _ => ⟨.ok h, .of_eq rfl rfl⟩

theorem tellAlike_throw (failure failure' : Failure) :
    TellAlike P (throw failure : Action α) (throw failure' : Action β) Q :=
  fun _ _ _ => ⟨.error _ _, .of_eq rfl rfl⟩

theorem tellAlike_log (level : LogLevel) (message : String) :
    TellAlike P (log level message) (log level message) fun _ _ => True :=
  fun _ _ _ => ⟨.ok trivial, _, rfl, rfl⟩

theorem tellAlike_ofExcept {result : Except Failure α} {result' : Except Failure β}
    (h : EndAlike Q result result') : TellAlike P (ofExcept result) (ofExcept result') Q := by
  cases h with
  | error failure failure' => exact tellAlike_throw failure failure'
  | ok h => exact tellAlike_pure h

theorem TellAlike.mono {action : Action α} {action' : Action β} (h : TellAlike P action action' Q)
    (hworlds : ∀ world other, S world other → P world other) : TellAlike S action action' Q :=
  fun world other hsame => h world other (hworlds world other hsame)

/-- Of what follows only what it tells in the worlds that come first counts. -/
theorem TellAlike.bind_step {action : Action γ} {action' : Action δ} {next : γ → Action α}
    {next' : δ → Action β} (h : TellAlike P action action' R)
    (hstep : ∀ world other, P world other → S (action.runOn world).2 (action'.runOn other).2)
    (hnext : ∀ a b, R a b → TellAlike S (next a) (next' b) Q) :
    TellAlike P (action >>= next) (action' >>= next') Q := by
  intro world other hworlds
  have hfirst := h world other hworlds
  have hmiddle := hstep world other hworlds
  rcases hrun : action.runOn world with ⟨result, middle⟩
  rcases hrun' : action'.runOn other with ⟨result', middle'⟩
  rw [hrun, hrun'] at hfirst hmiddle
  obtain ⟨hends, htold⟩ := hfirst
  cases hends with
  | error failure failure' =>
    rw [runOn_bind_error hrun, runOn_bind_error hrun']
    exact ⟨.error _ _, htold⟩
  | ok hvalues =>
    rw [runOn_bind_ok hrun, runOn_bind_ok hrun']
    obtain ⟨hends, hmore⟩ := hnext _ _ hvalues _ _ hmiddle
    exact ⟨hends, htold.trans hmore⟩

/-- What two worlds look like is not changed by actions that keep files and keychains. -/
theorem TellAlike.bind [World.IsView P] {action : Action γ} {action' : Action δ}
    {next : γ → Action α} {next' : δ → Action β} (h : TellAlike P action action' R)
    (hkeeps : Keeps World.SameStores action) (hkeeps' : Keeps World.SameStores action')
    (hnext : ∀ a b, R a b → TellAlike P (next a) (next' b) Q) :
    TellAlike P (action >>= next) (action' >>= next') Q :=
  h.bind_step (fun _ _ hworlds => World.IsView.congr (hkeeps _) (hkeeps' _) hworlds) hnext

/-- What follows may tell the same in any two worlds. -/
theorem TellAlike.bind_any {action : Action γ} {action' : Action δ} {next : γ → Action α}
    {next' : δ → Action β} (h : TellAlike P action action' R)
    (hnext : ∀ a b, R a b → TellAlike (fun _ _ => True) (next a) (next' b) Q) :
    TellAlike P (action >>= next) (action' >>= next') Q :=
  h.bind_step (fun _ _ _ => trivial) hnext

end Action

open NamedKeys.Action

/-! ## Keychains -/

namespace Keychain

/-- What two entries hold looks alike: nothing, or pairs with one address. -/
inductive HeldAlike : Option (List UInt8) → Option (List UInt8) → Prop
  | absent : HeldAlike none none
  | pair {octets octets' : List UInt8} {pair pair' : KeyPair}
      (hpair : KeyPair.ofOctets octets = .ok pair) (hpair' : KeyPair.ofOctets octets' = .ok pair')
      (haddress : pair.address = pair'.address) : HeldAlike (some octets) (some octets')

/-- An entry looks alike in two worlds: it can be read in neither, or what it holds looks alike. -/
def LooksAlike (keychain : Keychain) (world other : World) (entry : String) : Prop :=
  EndAlike HeldAlike (keychain.reading world entry) (keychain.reading other entry)

variable {P : World → World → Prop} {keychain : Keychain} {entry : String}

theorem log_read (keychain : Keychain) (entry : String) :
    ∃ records, ∀ world, ((keychain.read entry).runOn world).2.log = world.log ++ records := by
  cases keychain with
  | memory => exact ⟨[], fun world => (List.append_nil _).symm⟩
  | refusing cause => exact ⟨[], fun world => (List.append_nil _).symm⟩
  | system user =>
    refine ⟨[⟨.debug, "Reading " ++ Text.quoted entry ++ " from the system keychain... "⟩],
      fun world => ?_⟩
    unfold read readSystem
    simp only [ask, Action.log, runOn_bind, runOn_modify, runOn_get]
    cases world.keyring.readRefusal with
    | some cause => rfl
    | none =>
      dsimp only
      cases world.keyring.passwords.lookup (entry, user) with
      | none => rfl
      | some text =>
        dsimp only
        cases Code.Base64.decode? .strict text.toList <;> rfl

theorem toldSame_read (keychain : Keychain) (entry : String) (world other : World) :
    World.ToldSame world ((keychain.read entry).runOn world).2 other
      ((keychain.read entry).runOn other).2 := by
  obtain ⟨records, hlog⟩ := keychain.log_read entry
  exact ⟨records, hlog world, hlog other⟩

theorem tellAlike_read (h : ∀ {world other}, P world other → keychain.LooksAlike world other entry) :
    TellAlike P (keychain.read entry) (keychain.read entry) HeldAlike := by
  intro world other hworlds
  obtain ⟨after, hrun, -⟩ := runOn_read keychain entry world
  obtain ⟨last, hrun', -⟩ := runOn_read keychain entry other
  refine ⟨?_, keychain.toldSame_read entry world other⟩
  rw [hrun, hrun']
  exact h hworlds

theorem tellAlike_write
    (h : ∀ {world other}, P world other → (keychain.AcceptsWrites world ↔ keychain.AcceptsWrites other))
    (octets octets' : List UInt8) :
    TellAlike P (keychain.write entry octets) (keychain.write entry octets') fun _ _ => True := by
  cases keychain with
  | memory => exact fun _ _ _ => ⟨.ok trivial, .of_eq rfl rfl⟩
  | refusing cause => exact fun _ _ _ => ⟨.error _ _, .of_eq rfl rfl⟩
  | system user =>
    intro world other hworlds
    have haccepts : world.keyring.writeRefusal = none ↔ other.keyring.writeRefusal = none :=
      h hworlds
    rw [runOn_write_system, runOn_write_system]
    cases hrefusal : world.keyring.writeRefusal with
    | none =>
      rw [haccepts.1 hrefusal]
      exact ⟨.ok trivial, _, rfl, rfl⟩
    | some cause =>
      obtain ⟨cause', hrefusal'⟩ : ∃ cause', other.keyring.writeRefusal = some cause' := by
        rw [← Option.ne_none_iff_exists', ne_eq, ← haccepts, hrefusal]
        exact Option.some_ne_none cause
      rw [hrefusal']
      exact ⟨.error _ _, _, rfl, rfl⟩

end Keychain

/-- Two worlds look alike to a keychain: they have the same files, the keychain accepts new entries in both
or in neither, and each of its entries looks alike. -/
structure World.LookAlike (keychain : Option Keychain) (world other : World) : Prop where
  sameTree : SameTree world other
  accepts : ∀ chosen ∈ keychain, (chosen.AcceptsWrites world ↔ chosen.AcceptsWrites other)
  entries : ∀ chosen ∈ keychain, ∀ entry, chosen.LooksAlike world other entry

instance (keychain : Option Keychain) : World.IsView (World.LookAlike keychain) where
  congr h h' halike := by
    refine ⟨World.IsView.congr h h' halike.sameTree, fun chosen hchosen => ?_,
      fun chosen hchosen entry => ?_⟩
    · have hleft := h.sameKeychains
      have hright := h'.sameKeychains
      exact ⟨fun haccepts => ((halike.accepts chosen hchosen).1 (haccepts.congr hleft.symm)).congr hright,
        fun haccepts => ((halike.accepts chosen hchosen).2 (haccepts.congr hright.symm)).congr hleft⟩
    · rw [Keychain.LooksAlike, Keychain.reading_congr h.sameKeychains,
        Keychain.reading_congr h'.sameKeychains]
      exact halike.entries chosen hchosen entry

/-- Of two pairs that are to be stored nothing is told, but of the pairs that are found the address. -/
theorem Keychain.tellAlike_store (keychain : Keychain) (entry : String) (pair pair' : KeyPair) :
    TellAlike (World.LookAlike (some keychain)) (keychain.store entry pair)
      (keychain.store entry pair') Eq := by
  have hread : TellAlike (World.LookAlike (some keychain)) (keychain.read entry) (keychain.read entry)
      HeldAlike := tellAlike_read fun halike => halike.entries keychain rfl entry
  have hkeeps : Keeps World.SameStores (keychain.read entry) :=
    keychain.keeps_read (.allowsAsking entry)
  refine hread.bind hkeeps hkeeps fun held held' hheld => ?_
  cases hheld with
  | absent =>
    refine (tellAlike_log _ _).bind (keeps_log _ _) (keeps_log _ _) fun _ _ _ => ?_
    refine (tellAlike_write (fun halike => halike.accepts keychain rfl) _ _).bind_any fun _ _ _ => ?_
    exact tellAlike_pure rfl
  | pair hpair hpair' haddress =>
    dsimp only
    rw [hpair, hpair']
    refine TellAlike.bind_any (R := fun one other => one.address = other.address)
      (tellAlike_ofExcept (.ok haddress)) fun one other hsame => ?_
    rw [hsame]
    exact (tellAlike_log _ _).bind_any fun _ _ _ => tellAlike_pure rfl

/-! ## Pairs -/

variable {P : World → World → Prop}

/-- Of two phrases it is told at most whether they are phrases. -/
theorem tellAlike_keyPairOfPhrase {phrase phrase' : String}
    (h : Mnemonic.isPhrase phrase = Mnemonic.isPhrase phrase') (path : Option Int) :
    TellAlike P (keyPairOfPhrase phrase path) (keyPairOfPhrase phrase' path) fun _ _ => True := by
  have hindex : EndAlike Eq (checkIndex path) (checkIndex path) := by
    cases checkIndex path with
    | error failure => exact .error _ _
    | ok index => exact .ok rfl
  unfold keyPairOfPhrase
  refine (tellAlike_ofExcept hindex).bind_any fun index index' hsame => ?_
  subst hsame
  dsimp only
  rw [Mnemonic.isPhrase_squeeze, Mnemonic.isPhrase_squeeze, ← h]
  cases Mnemonic.isPhrase phrase with
  | false =>
    exact TellAlike.bind_any (R := fun _ _ => False) (tellAlike_throw _ _) fun _ _ hnone => hnone.elim
  | true => exact (tellAlike_log _ _).bind_any fun _ _ _ => tellAlike_pure trivial

theorem tellAlike_ignorePath (path : Option Int) (secret : String) :
    TellAlike P (ignorePath path secret) (ignorePath path secret) fun _ _ => True := by
  cases path with
  | none => exact tellAlike_pure trivial
  | some path => exact tellAlike_log _ _

/-- Two secrets of one kind; if they are entries of keychains, they have one name. -/
inductive Secret.Alike : Secret → Secret → Prop
  | seedPhrase (phrase phrase' : SeedPhrase) : Alike (.seedPhrase phrase) (.seedPhrase phrase')
  | secretKey (text text' : String) : Alike (.secretKey text) (.secretKey text')
  | keychain (entry : String) : Alike (.keychain entry) (.keychain entry)

/-- Two entries that hold pairs are read in one way. -/
theorem Keychain.tellAlike_keyPair (keychain : Keychain) (entry : String) :
    TellAlike
      (fun world other => ∃ pair pair', keychain.HoldsPair world entry pair ∧
        keychain.HoldsPair other entry pair')
      (keychain.keyPair entry) (keychain.keyPair entry) fun _ _ => True := by
  rintro world other ⟨pair, pair', ⟨octets, hread, hpair⟩, octets', hread', hpair'⟩
  obtain ⟨after, hrun, -⟩ := runOn_read keychain entry world
  obtain ⟨last, hrun', -⟩ := runOn_read keychain entry other
  have htold := keychain.toldSame_read entry world other
  rw [hread] at hrun
  rw [hread'] at hrun'
  rw [hrun, hrun'] at htold
  rw [keyPair, runOn_bind_ok hrun, runOn_bind_ok hrun']
  dsimp only
  rw [hpair, hpair']
  exact ⟨.ok trivial, htold⟩

/-- Of two secrets that look alike and give pairs nothing is told that differs. -/
theorem tellAlike_keyPairOfSecret {secret secret' : Secret} (h : secret.Alike secret')
    (path : Option Int) (keychain : Option Keychain) :
    TellAlike
      (fun world other => ∃ pair pair', pairOfSecret world secret path keychain = .ok pair ∧
        pairOfSecret other secret' path keychain = .ok pair')
      (keyPairOfSecret secret path keychain) (keyPairOfSecret secret' path keychain) fun _ _ => True := by
  cases h with
  | seedPhrase phrase phrase' =>
    rintro world other ⟨pair, pair', hpair, hpair'⟩
    have hphrases : Mnemonic.isPhrase phrase.text = Mnemonic.isPhrase phrase'.text := by
      rw [isPhrase_of_pairOfPhrase hpair, isPhrase_of_pairOfPhrase hpair']
    exact tellAlike_keyPairOfPhrase (P := fun _ _ => True) hphrases path world other trivial
  | secretKey text text' =>
    rintro world other ⟨pair, pair', hpair, hpair'⟩
    have hends : EndAlike (fun _ _ => True) (KeyPair.ofKeyText text) (KeyPair.ofKeyText text') := by
      rw [pairOfSecret_secretKey] at hpair hpair'
      rw [hpair, hpair']
      exact .ok trivial
    have htell : TellAlike (fun _ _ => True) (keyPairOfSecret (.secretKey text) path keychain)
        (keyPairOfSecret (.secretKey text') path keychain) fun _ _ => True :=
      (tellAlike_ignorePath _ _).bind_any fun _ _ _ => tellAlike_ofExcept hends
    exact htell world other trivial
  | keychain entry =>
    cases keychain with
    | none =>
      rintro world other ⟨pair, pair', hpair, -⟩
      cases hpair
    | some chosen =>
      refine (tellAlike_ignorePath _ _).bind_step ?_ fun _ _ _ => chosen.tellAlike_keyPair entry
      rintro world other ⟨pair, pair', hpair, hpair'⟩
      have hkeeps : ∀ world, World.SameStores world _ :=
        keeps_ignorePath path ("keychain entry " ++ entry)
      exact ⟨pair, pair', (Keychain.pairIn_eq_ok_iff.1 hpair).congr (hkeeps world).sameKeychains,
        (Keychain.pairIn_eq_ok_iff.1 hpair').congr (hkeeps other).sameKeychains⟩

/-! ## Files -/

/-- Two worlds with one log. -/
def World.SameLog (world after : World) : Prop :=
  after.log = world.log

instance : World.IsTreeFrame World.SameLog where
  refl _ := rfl
  trans h h' := Eq.trans h' h
  files _ _ := rfl

/-- An identity that is written tells its name and its file; one that is not tells nothing. -/
theorem Store.log_write (store : Store) (name : IdentityName) :
    ∃ record, ∀ (secret : Secret) (world : World),
      let run := (store.write name secret).runOn world
      (run.1 = .ok () → run.2.log = world.log ++ [record]) ∧
        ∀ failure, run.1 = .error failure → run.2.log = world.log := by
  refine ⟨⟨.info, "Identity " ++ Text.quoted name.text ++ " written to " ++ (store.file name).text⟩,
    fun secret world => ?_⟩
  have hquiet : World.SameLog world
      ((writeAtOnce (store.file name) (document secret)).runOn world).2 :=
    keeps_writeAtOnce _ _ world
  rcases hrun : (writeAtOnce (store.file name) (document secret)).runOn world with
    ⟨failure | ⟨⟩, middle⟩
  · rw [hrun] at hquiet
    rw [write]
    dsimp only
    rw [runOn_bind_error hrun]
    refine ⟨fun hok => ?_, fun _ _ => hquiet⟩
    cases hok
  · rw [hrun] at hquiet
    rw [write]
    dsimp only
    rw [runOn_bind_ok hrun]
    refine ⟨fun _ => congrArg (· ++ _) hquiet, fun failure herror => ?_⟩
    cases herror

/-- Two secrets that are written to one file are told, or refused, in one way. -/
theorem Store.tellAlike_write (store : Store) (name : IdentityName) (secret secret' : Secret) :
    TellAlike World.SameTree (store.write name secret) (store.write name secret') fun _ _ => True := by
  intro world other hsame
  obtain ⟨record, hlog⟩ := store.log_write name
  have hwritable : store.IsWritable name world ↔ store.IsWritable name other :=
    ⟨fun h => h.congr hsame, fun h => h.congr hsame.symm⟩
  rw [← write_ok_iff secret, ← write_ok_iff secret'] at hwritable
  cases hresult : ((store.write name secret).runOn world).1 with
  | ok done =>
    have hresult' := hwritable.1 hresult
    refine ⟨by rw [hresult, hresult']; exact .ok trivial, [record], ?_, ?_⟩
    · exact (hlog secret world).1 hresult
    · exact (hlog secret' other).1 hresult'
  | error failure =>
    cases hresult' : ((store.write name secret').runOn other).1 with
    | ok done =>
      cases hresult.symm.trans (hwritable.2 hresult')
    | error failure' =>
      refine ⟨by rw [hresult, hresult']; exact .error _ _, .of_eq ?_ ?_⟩
      · exact (hlog secret world).2 failure hresult
      · exact (hlog secret' other).2 failure' hresult'

end NamedKeys
