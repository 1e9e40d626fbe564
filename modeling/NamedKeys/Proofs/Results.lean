/-!
# Computations that may fail

What is known of the parts of a computation that succeeds: of two computations one after the other each one
succeeds (`exists_of_bind_ok`), and what holds at the start of a run of steps and is kept by each holds at
the end (`foldlM_invariant`).
-/

namespace NamedKeys

section

variable {ε α β : Type}

theorem ok_bind (a : α) (next : α → Except ε β) : ((.ok a : Except ε α) >>= next) = next a :=
  rfl

/-- Of two computations one after the other that succeed together each one does. -/
theorem exists_of_bind_ok {first : Except ε α} {next : α → Except ε β} {b : β}
    (h : (first >>= next) = .ok b) : ∃ a, first = .ok a ∧ next a = .ok b := by
  cases first with
  | error fault => cases h
  | ok a => exact ⟨a, rfl, h⟩

theorem exists_of_map_ok {first : Except ε α} {f : α → β} {b : β}
    (h : first.map f = .ok b) : ∃ a, first = .ok a ∧ f a = b := by
  cases first with
  | error fault => cases h
  | ok a => exact ⟨a, rfl, Except.ok.inj h⟩

/-- What holds with no item taken, and is kept with each item more, holds with all of them. -/
theorem foldlM_invariant {step : α → β → Except ε α} {P : List β → α → Prop} {items : List β}
    (hstep : ∀ taken a, ∀ b ∈ items, ∀ after, P taken a → step a b = .ok after → P (taken ++ [b]) after)
    {start final : α} (hstart : P [] start) (h : items.foldlM step start = .ok final) :
    P items final := by
  suffices hrun : ∀ taken rest (a : α), taken ++ rest = items → P taken a →
      rest.foldlM step a = .ok final → P items final from hrun [] items start rfl hstart h
  intro taken rest
  induction rest generalizing taken with
  | nil =>
    intro a hitems ha hrun
    obtain rfl : a = final := Except.ok.inj hrun
    rw [List.append_nil] at hitems
    rwa [← hitems]
  | cons b rest ih =>
    intro a hitems ha hrun
    rw [List.foldlM_cons] at hrun
    obtain ⟨middle, hmiddle, hrest⟩ := exists_of_bind_ok hrun
    have hb : b ∈ items := hitems ▸ List.mem_append_right taken List.mem_cons_self
    refine ih (taken ++ [b]) middle ?_ (hstep taken a b hb middle ha hmiddle) hrest
    rw [List.append_assoc, List.singleton_append, hitems]

end

end NamedKeys
