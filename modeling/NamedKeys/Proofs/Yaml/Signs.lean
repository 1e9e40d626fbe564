import Mathlib.Data.Finset.Card
import NamedKeys.Yaml.Value

/-!
# Signs of equality

The text of a mapping is that of the value of its first key that is a mere sign of equality, which may be a
mapping in turn.  Following the signs ends at a scalar, whose text is the one, or at a node without a sign, or
it does not end:

    textOf size id = .ok text ↔ ∃ n last, afterSigns n id = some last and last is a scalar of that text
                                                                                    (textOf_eq_ok_iff)
    textOf size id = .error (.value .endless) ↔ ∀ n, (afterSigns n id).isSome       (textOf_eq_endless_iff)

The fuel is enough, since a way longer than the number of nodes passes a mapping twice.
-/

namespace NamedKeys.Yaml.Graph

open mergedEntries (entriesOf)

variable {graph : Graph} {id last : Nat}

/-- The node that a number of signs lead to. -/
def afterSigns (graph : Graph) : Nat → Nat → Option Nat
  | 0, id => some id
  | n + 1, id => (graph.signValue? id).bind (graph.afterSigns n)

theorem signValue?_of_scalar {tag : Tag} {text : List Char}
    (h : graph.node? id = some (.scalar tag text)) : graph.signValue? id = none := by
  rw [signValue?, entriesOf, h]
  rfl

/-- A node with a sign is in the graph. -/
theorem mem_keys_of_signValue? (h : (graph.signValue? id).isSome) : id ∈ graph.nodes.map Prod.fst := by
  by_contra hkey
  have hnode : graph.node? id = none := Table.lookup_eq_none_iff.2 hkey
  rw [signValue?, entriesOf, hnode] at h
  cases h

theorem afterSigns_add (m n : Nat) :
    graph.afterSigns (m + n) id = (graph.afterSigns m id).bind (graph.afterSigns n) := by
  induction m generalizing id with
  | zero => rw [Nat.zero_add, afterSigns, Option.bind_some]
  | succ m ih =>
    rw [Nat.succ_add, afterSigns, afterSigns, Option.bind_assoc]
    exact Option.bind_congr fun value _ => ih

/-- Each node before the last has a sign. -/
theorem signValue?_of_afterSigns {n m : Nat} (h : graph.afterSigns n id = some last) (hm : m < n) :
    ∃ before, graph.afterSigns m id = some before ∧ (graph.signValue? before).isSome := by
  obtain ⟨more, rfl⟩ := Nat.exists_eq_add_of_lt hm
  rw [Nat.add_assoc, afterSigns_add] at h
  obtain ⟨before, hbefore, h⟩ := Option.bind_eq_some_iff.1 h
  obtain ⟨value, hvalue, -⟩ := Option.bind_eq_some_iff.1 h
  exact ⟨before, hbefore, Option.isSome_iff_exists.2 ⟨value, hvalue⟩⟩

/-- A way that passes a node twice does not end. -/
theorem isSome_afterSigns_of_again {i j : Nat} (hij : i < j) (hi : graph.afterSigns i id = some last)
    (hj : graph.afterSigns j id = some last) (n : Nat) : (graph.afterSigns n id).isSome := by
  induction n using Nat.strong_induction_on with
  | h n ih =>
    rcases Nat.lt_or_ge n j with hn | hn
    · obtain ⟨before, hbefore, -⟩ := signValue?_of_afterSigns hj hn
      exact Option.isSome_iff_exists.2 ⟨before, hbefore⟩
    · obtain ⟨more, rfl⟩ := Nat.exists_eq_add_of_le hn
      rw [afterSigns_add, hj, ← hi, ← afterSigns_add]
      exact ih (i + more) (by omega)

/-- A way that is longer than the number of nodes does not end. -/
theorem isSome_afterSigns (hlast : graph.afterSigns graph.size id = some last) (n : Nat) :
    (graph.afterSigns n id).isSome := by
  have hnodes : ∀ m ∈ Finset.range graph.size,
      (graph.afterSigns m id).getD 0 ∈ (graph.nodes.map Prod.fst).toFinset := by
    intro m hm
    obtain ⟨before, hbefore, hsign⟩ := signValue?_of_afterSigns hlast (Finset.mem_range.1 hm)
    rw [hbefore, List.mem_toFinset]
    exact mem_keys_of_signValue? hsign
  have hcard : (graph.nodes.map Prod.fst).toFinset.card < (Finset.range graph.size).card := by
    rw [Finset.card_range, size, Nat.lt_succ_iff, ← List.length_map Prod.fst]
    exact List.toFinset_card_le _
  obtain ⟨i, hi, j, hj, hne, hsame⟩ := Finset.exists_ne_map_eq_of_card_lt_of_maps_to hcard hnodes
  wlog hij : i < j generalizing i j
  · exact this j hj i hi hne.symm hsame.symm (by omega)
  obtain ⟨first, hfirst, -⟩ := signValue?_of_afterSigns hlast (Finset.mem_range.1 hi)
  obtain ⟨again, hagain, -⟩ := signValue?_of_afterSigns hlast (Finset.mem_range.1 hj)
  rw [hfirst, hagain, Option.getD_some, Option.getD_some] at hsame
  exact isSome_afterSigns_of_again hij hfirst (hsame ▸ hagain) n

/-! ## The text of a node -/

theorem textOf_of_sign {value : Nat} (h : graph.signValue? id = some value) (fuel : Nat) :
    graph.textOf (fuel + 1) id = graph.textOf fuel value := by
  rw [textOf]
  split
  · next hnode =>
    rw [signValue?_of_scalar hnode] at h
    cases h
  · rw [h]

/-- The text is that of the node that signs lead to. -/
theorem textOf_of_afterSigns {n : Nat} (h : graph.afterSigns n id = some last) (fuel : Nat) :
    graph.textOf (n + fuel) id = graph.textOf fuel last := by
  induction n generalizing id with
  | zero =>
    obtain rfl := Option.some.inj h
    rw [Nat.zero_add]
  | succ n ih =>
    obtain ⟨value, hvalue, h⟩ := Option.bind_eq_some_iff.1 h
    rw [Nat.succ_add, textOf_of_sign hvalue, ih h]

/-- The ways to the text of a node: to a scalar, or to a node without a sign, or further than the fuel. -/
theorem textOf_cases (graph : Graph) (fuel id : Nat) :
    (∃ n last tag text, graph.afterSigns n id = some last ∧
      graph.node? last = some (.scalar tag text) ∧ graph.textOf fuel id = .ok text) ∨
    (graph.textOf fuel id = .error .malformed ∧ graph.afterSigns fuel id = none) ∨
    (graph.textOf fuel id = .error (.value .endless) ∧ (graph.afterSigns fuel id).isSome) := by
  induction fuel generalizing id with
  | zero => exact .inr (.inr ⟨rfl, rfl⟩)
  | succ fuel ih =>
    cases hsign : graph.signValue? id with
    | some value =>
      rw [textOf_of_sign hsign, afterSigns, hsign, Option.bind_some]
      rcases ih value with ⟨n, last, tag, text, hlast, hnode, htext⟩ | hother
      · refine .inl ⟨n + 1, last, tag, text, ?_, hnode, htext⟩
        rw [afterSigns, hsign, Option.bind_some, hlast]
      · exact .inr hother
    | none =>
      rw [textOf, afterSigns, hsign]
      split
      · next tag text hnode => exact .inl ⟨0, id, tag, text, rfl, hnode, rfl⟩
      · exact .inr (.inl ⟨rfl, rfl⟩)

/-- A node has the text of the scalar to which its signs lead. -/
theorem textOf_eq_ok_iff {text : List Char} : graph.textOf graph.size id = .ok text ↔
    ∃ n last tag, graph.afterSigns n id = some last ∧ graph.node? last = some (.scalar tag text) := by
  constructor
  · intro h
    rcases graph.textOf_cases graph.size id with
      ⟨n, last, tag, found, hlast, hnode, hfound⟩ | ⟨hother, -⟩ | ⟨hother, -⟩
    · cases hfound.symm.trans h
      exact ⟨n, last, tag, hlast, hnode⟩
    · cases hother.symm.trans h
    · cases hother.symm.trans h
  · rintro ⟨n, last, tag, hlast, hnode⟩
    -- there is no sign after a scalar, so that the way ends before the fuel does
    have hends : graph.afterSigns (n + 1) id = none := by
      rw [afterSigns_add, hlast, Option.bind_some, afterSigns, signValue?_of_scalar hnode,
        Option.bind_none]
    have hshort : n < graph.size := by
      by_contra hlong
      obtain ⟨more, hmore⟩ := Nat.exists_eq_add_of_le (Nat.le_of_not_lt hlong)
      rw [hmore, afterSigns_add] at hlast
      obtain ⟨before, hbefore, -⟩ := Option.bind_eq_some_iff.1 hlast
      have hendless := isSome_afterSigns hbefore (n + 1)
      rw [hends] at hendless
      cases hendless
    obtain ⟨fuel, hfuel⟩ := Nat.exists_eq_add_of_lt hshort
    rw [hfuel, Nat.add_assoc, textOf_of_afterSigns hlast, textOf, hnode]

/-- A node has no end of its text exactly if its signs lead on for ever. -/
theorem textOf_eq_endless_iff : graph.textOf graph.size id = .error (.value .endless) ↔
    ∀ n, (graph.afterSigns n id).isSome := by
  constructor
  · intro h
    rcases graph.textOf_cases graph.size id with
      ⟨_, _, _, _, -, -, hfound⟩ | ⟨hother, -⟩ | ⟨-, hlong⟩
    · cases hfound.symm.trans h
    · cases hother.symm.trans h
    · obtain ⟨last, hlast⟩ := Option.isSome_iff_exists.1 hlong
      exact isSome_afterSigns hlast
  · intro h
    rcases graph.textOf_cases graph.size id with
      ⟨n, last, tag, text, hlast, hnode, -⟩ | ⟨-, hends⟩ | ⟨hendless, -⟩
    · have hnext := h (n + 1)
      rw [afterSigns_add, hlast, Option.bind_some, afterSigns, signValue?_of_scalar hnode] at hnext
      cases hnext
    · have hlong := h graph.size
      rw [hends] at hlong
      cases hlong
    · exact hendless

end NamedKeys.Yaml.Graph
