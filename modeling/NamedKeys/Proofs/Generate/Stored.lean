import NamedKeys.Proofs.Derivation
import NamedKeys.Proofs.Store.Write

/-!
# Identities that have been stored

When an identity has been stored, its secret is read back as long as files stay as they are
(`read_of_storeNew`), and the secret gives the pair of the generation or the one whose address was found
in the keychain (`pair_of_storeNew`); at a path in range there always is one
(`exists_pair_of_storeNew`).
-/

namespace NamedKeys.Generate

open NamedKeys.Action

variable {options : Options} {store : Store} {keychain : Option Keychain} {world after : World}
  {secret : Secret} {existing : Option String}

/-- Storing an identity keeps every relation that looks at the entry of its name at most. -/
theorem keeps_storeNew {R : World → World → Prop} [World.IsStoreFrame R] (options : Options)
    (store : Store) (keychain : Option Keychain)
    (hask : World.AllowsAsking R (entryOf options.name))
    (hfill : Keychain.AllowsFilling R (entryOf options.name)) :
    Keeps R (storeNew options store keychain) := by
  refine (keeps_makePhrase _).bind fun phrase => ?_
  have written : ∀ secret : Secret, Keeps R (fillEntry options phrase keychain secret) →
      Keeps R (do
        let existing ← fillEntry options phrase keychain secret
        store.write options.name secret
        return (secret, existing)) :=
    fun secret hfilled => hfilled.bind fun _ => (World.IsStoreFrame.write store _ _).bind fun _ =>
      keeps_pure _
  unfold secretOf
  split
  · exact written (.seedPhrase _) (keeps_pure _)
  · rw [bind_assoc]
    exact (keeps_keyPairOfPhrase _ _).bind fun pair => written (.secretKey pair.secret) (keeps_pure _)
  · rw [Secret.parse_entryName options.name.hasForm]
    exact written (.keychain (entryOf options.name)) (keeps_fillEntry _ _ _ hask hfill)

/-- The secret of an identity that has been stored is read back. -/
theorem read_of_storeNew
    (h : (storeNew options store keychain).runOn world = (.ok (secret, existing), after)) {other : World}
    (hsame : World.SameStores after other) :
    (store.read options.name).runOn other = (.ok secret, other) := by
  obtain ⟨middle, hprepared, hwrite⟩ := storeNew_ok h
  exact Store.read_of_write hwrite hprepared.readable hsame

/-- The secret of an identity that has been stored gives the new pair, or the one whose address was found
in the keychain. -/
theorem pair_of_storeNew
    (h : (storeNew options store keychain).runOn world = (.ok (secret, existing), after)) :
    (existing = none ∧ pairOfSecret after secret options.path keychain = newPair options world) ∨
      ∃ pair, existing = some pair.address ∧
        pairOfSecret after secret options.path keychain = .ok pair := by
  obtain ⟨middle, hprepared, hwrite⟩ := storeNew_ok h
  have hsame : World.SameKeychains middle ((store.write options.name secret).runOn middle).2 :=
    store.keeps_write options.name secret middle
  rw [hwrite] at hsame
  rw [pairOfSecret_congr hsame]
  exact hprepared.pairOfSecret

def Form.kind : Form → SecretKind
  | .phrase => .seedPhrase
  | .secretKey => .secretKey
  | .keychain => .keychain

theorem Form.kind_eq_seedPhrase_iff {form : Form} : form.kind = .seedPhrase ↔ form = .phrase := by
  cases form <;> decide

theorem kind_of_storeNew
    (h : (storeNew options store keychain).runOn world = (.ok (secret, existing), after)) :
    secret.kind = options.form.kind := by
  obtain ⟨middle, hprepared, -⟩ := storeNew_ok h
  cases hprepared with
  | phrase hform => rw [hform]; rfl
  | secretKey hform => rw [hform]; rfl
  | keychain hform => rw [hform]; rfl

/-- A new phrase has been made for every identity that has been stored. -/
theorem newPhrase_of_storeNew
    (h : (storeNew options store keychain).runOn world = (.ok (secret, existing), after)) :
    ∃ phrase, newPhrase options.seed world = .ok phrase := by
  obtain ⟨middle, hprepared, -⟩ := storeNew_ok h
  cases hprepared with
  | phrase _ hphrase => exact ⟨_, hphrase⟩
  | secretKey _ hpair =>
    obtain ⟨phrase, hphrase, -⟩ := newPair_ok hpair
    exact ⟨phrase, hphrase⟩
  | keychain _ _ hpair =>
    obtain ⟨phrase, hphrase, -⟩ := newPair_ok hpair
    exact ⟨phrase, hphrase⟩

/-- At a path in range the secret of an identity that has been stored gives a pair. -/
theorem exists_pair_of_storeNew (hpath : ∀ index ∈ options.path, 0 ≤ index ∧ index < 2 ^ 31)
    (h : (storeNew options store keychain).runOn world = (.ok (secret, existing), after)) :
    ∃ pair, pairOfSecret after secret options.path keychain = .ok pair := by
  rcases pair_of_storeNew h with ⟨-, hnew⟩ | ⟨pair, -, hpair⟩
  · obtain ⟨phrase, hphrase⟩ := newPhrase_of_storeNew h
    obtain ⟨pair, hpair⟩ := newPair_of_newPhrase hphrase hpath
    exact ⟨pair, hnew.trans hpair⟩
  · exact ⟨pair, hpair⟩

/-! ## Where an identity can be stored -/

/-- There is a keychain whose entry of a name is not there and can be written. -/
def HasFreeEntry (keychain : Option Keychain) (name : IdentityName) (world : World) : Prop :=
  ∃ chosen ∈ keychain, chosen.reading world (entryOf name) = .ok none ∧ chosen.AcceptsWrites world

theorem prepare_succeeds {pair : KeyPair} (hpair : newPair options world = .ok pair)
    (hentry : options.form = .keychain → HasFreeEntry keychain options.name world) :
    ∃ secret after, (prepare options keychain).runOn world = (.ok (secret, none), after) := by
  obtain ⟨phrase, hphrase, -⟩ := newPair_ok hpair
  cases hform : options.form with
  | phrase =>
    obtain ⟨after, -, hrun⟩ := runOn_prepare_phrase hform hphrase keychain
    exact ⟨_, after, hrun⟩
  | secretKey =>
    obtain ⟨after, -, hrun⟩ := runOn_prepare_secretKey hform hphrase keychain
    rw [hpair] at hrun
    exact ⟨_, after, hrun⟩
  | keychain =>
    obtain ⟨chosen, rfl, habsent, haccepts⟩ := hentry hform
    obtain ⟨middle, hsame, hrun⟩ := runOn_prepare_keychain hform hpair chosen
    rw [← Keychain.reading_congr hsame.sameKeychains] at habsent
    obtain ⟨after, hstore⟩ := exists_of_runOn_fst
      (Keychain.store_created habsent (haccepts.congr hsame.sameKeychains) pair)
    rw [hstore] at hrun
    exact ⟨_, after, hrun⟩

/-- A new identity is stored where its file can be written and its entry, if it is to have one, can be
filled. -/
theorem storeNew_succeeds {pair : KeyPair} (hpair : newPair options world = .ok pair)
    (hfile : store.IsWritable options.name world)
    (hentry : options.form = .keychain → HasFreeEntry keychain options.name world) :
    ∃ secret after, (storeNew options store keychain).runOn world = (.ok (secret, none), after) := by
  obtain ⟨secret, middle, hprepare⟩ := prepare_succeeds hpair hentry
  obtain ⟨after, hwrite⟩ := exists_of_runOn_fst ((Store.write_ok_iff secret).2
    (hfile.congr (prepared_of_run hprepare).keeps.1.sameTree))
  refine ⟨secret, after, ?_⟩
  rw [storeNew_eq, runOn_bind_ok hprepare, runOn_bind_ok hwrite]
  rfl

/-- Where its file cannot be written, no new identity is stored. -/
theorem storeNew_of_not_isWritable {pair : KeyPair} (hpair : newPair options world = .ok pair)
    (hfile : ¬ store.IsWritable options.name world)
    (hentry : options.form = .keychain → HasFreeEntry keychain options.name world) :
    ∃ fault after, (storeNew options store keychain).runOn world = (.error (.file fault), after) := by
  obtain ⟨secret, middle, hprepare⟩ := prepare_succeeds hpair hentry
  rcases hwrite : (store.write options.name secret).runOn middle with ⟨failure | ⟨⟩, after⟩
  · obtain ⟨⟨fault, rfl⟩, -, -⟩ := Store.write_error hwrite
    refine ⟨fault, after, ?_⟩
    rw [storeNew_eq, runOn_bind_ok hprepare, runOn_bind_error hwrite]
  · have hwritable := (Store.write_ok_iff secret).1 (congrArg Prod.fst hwrite)
    exact absurd (hwritable.congr (prepared_of_run hprepare).keeps.1.sameTree.symm) hfile

end NamedKeys.Generate
