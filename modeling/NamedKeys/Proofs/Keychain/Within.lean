import NamedKeys.Proofs.Keychain.Entries

/-!
# Entries of one kind

Keychains note for which entries they are asked.  An action stays within a kind of entries if keychains
are asked for no other, and no other has changed; this composes, it looks at neither files nor requests,
and asking for an entry of the kind and filling it are allowed (`allowsFilling_staysWithin`).
-/

namespace NamedKeys

/-- Between two worlds keychains are asked for entries of a kind only, and no other has changed. -/
structure World.StaysWithin (P : String → Prop) (world after : World) : Prop where
  asked : ∃ entries, after.asked = world.asked ++ entries ∧ ∀ entry ∈ entries, P entry
  memory : ∀ entry, ¬ P entry → after.memory.lookup entry = world.memory.lookup entry
  passwords : ∀ entry, ¬ P entry → ∀ user,
    after.keyring.passwords.lookup (entry, user) = world.keyring.passwords.lookup (entry, user)

variable {P : String → Prop}

theorem World.StaysWithin.of_same {world after : World} (hasked : after.asked = world.asked)
    (hmemory : after.memory = world.memory) (hkeyring : after.keyring = world.keyring) :
    StaysWithin P world after := by
  refine ⟨⟨[], by rw [hasked, List.append_nil], by simp⟩, fun _ _ => ?_, fun _ _ _ => ?_⟩
  · rw [hmemory]
  · rw [hkeyring]

theorem World.StaysWithin.trans {world middle after : World} (h : StaysWithin P world middle)
    (h' : StaysWithin P middle after) : StaysWithin P world after := by
  obtain ⟨first, hfirst, hall⟩ := h.asked
  obtain ⟨second, hsecond, hall'⟩ := h'.asked
  refine ⟨⟨first ++ second, by rw [hsecond, hfirst, List.append_assoc], ?_⟩, ?_, ?_⟩
  · intro entry hentry
    rcases List.mem_append.1 hentry with hmem | hmem
    · exact hall entry hmem
    · exact hall' entry hmem
  · intro entry hentry
    rw [h'.memory entry hentry, h.memory entry hentry]
  · intro entry hentry user
    rw [h'.passwords entry hentry user, h.passwords entry hentry user]

instance : World.IsFileFrame (World.StaysWithin P) where
  refl _ := .of_same rfl rfl rfl
  trans := World.StaysWithin.trans
  quiet _ _ _ := .of_same rfl rfl rfl
  files _ _ := .of_same rfl rfl rfl

instance : World.IsRequestFrame (World.StaysWithin P) where
  requests _ _ _ := .of_same rfl rfl rfl

theorem World.StaysWithin.allowsAsking {entry : String} (h : P entry) :
    AllowsAsking (StaysWithin P) entry := by
  intro world
  refine ⟨⟨[entry], rfl, ?_⟩, fun _ _ => rfl, fun _ _ _ => rfl⟩
  intro other hother
  rwa [List.mem_singleton.1 hother]

theorem Keychain.allowsFilling_staysWithin {entry : String} (h : P entry) :
    AllowsFilling (World.StaysWithin P) entry := by
  have hother : ∀ other, ¬ P other → other ≠ entry := by
    rintro other hother rfl
    exact hother h
  intro keychain world octets
  unfold putEntry
  cases keychain.user? with
  | none =>
    refine ⟨⟨[], (List.append_nil _).symm, by simp⟩, fun other hnot => ?_, fun _ _ _ => rfl⟩
    rw [Table.lookup_put, if_neg (by rw [beq_iff_eq]; exact hother other hnot)]
  | some user =>
    refine ⟨⟨[], (List.append_nil _).symm, by simp⟩, fun _ _ => rfl, fun other hnot user' => ?_⟩
    rw [Table.lookup_put, if_neg]
    rw [beq_iff_eq]
    exact fun heq => hother other hnot (congrArg Prod.fst heq)

end NamedKeys
