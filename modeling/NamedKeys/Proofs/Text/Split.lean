import NamedKeys.Proofs.Text.Words
import NamedKeys.Text.Split

/-!
# Texts cut at characters

Parts without the separator are found again between the separators (`splitOn_joinWith`), and the separator is
in no part that is found (`not_mem_of_mem_splitOn`).  A text with a character is cut at the last one, from
behind: what follows holds it no more (`takeWhile_reverse_append`).
-/

namespace NamedKeys.Text

variable {separator c : Char} {cs front back part : List Char} {parts : List (List Char)}

/-! ## Parts between separators -/

theorem joinWith_cons_cons (between part next : List Char) (parts : List (List Char)) :
    joinWith between (part :: next :: parts) = part ++ between ++ joinWith between (next :: parts) :=
  rfl

theorem joinWith_eq_intercalate (between : List Char) (parts : List (List Char)) :
    joinWith between parts = between.intercalate parts := by
  induction parts with
  | nil => rfl
  | cons part parts ih =>
    cases parts with
    | nil => rw [joinWith, List.intercalate_singleton]
    | cons next parts => rw [joinWith_cons_cons, ih, List.intercalate_cons_cons, List.append_assoc]

theorem mem_joinWith {between : List Char} (h : c ∈ joinWith between parts) :
    c ∈ between ∨ ∃ part ∈ parts, c ∈ part := by
  induction parts with
  | nil => cases h
  | cons part parts ih =>
    cases parts with
    | nil => exact .inr ⟨part, List.mem_cons_self, h⟩
    | cons next parts =>
      rw [joinWith_cons_cons, List.mem_append, List.mem_append] at h
      rcases h with (h | h) | h
      · exact .inr ⟨part, List.mem_cons_self, h⟩
      · exact .inl h
      · rcases ih h with h | ⟨found, hfound, hc⟩
        · exact .inl h
        · exact .inr ⟨found, List.mem_cons_of_mem _ hfound, hc⟩

theorem splitOn_joinWith (hne : parts ≠ []) (h : ∀ part ∈ parts, separator ∉ part) :
    splitOn separator (joinWith [separator] parts) = parts := by
  induction parts with
  | nil => exact absurd rfl hne
  | cons part parts ih =>
    have hpart := h part List.mem_cons_self
    cases parts with
    | nil => exact splitOn_of_not_mem hpart
    | cons next parts =>
      rw [joinWith_cons_cons, List.append_assoc, List.singleton_append, splitOn_append hpart,
        ih (List.cons_ne_nil _ _) fun found hfound => h found (List.mem_cons_of_mem _ hfound)]

theorem not_mem_of_mem_splitOn (h : part ∈ splitOn separator cs) : separator ∉ part := by
  induction cs generalizing part with
  | nil =>
    rw [List.mem_singleton.1 h]
    exact List.not_mem_nil
  | cons c cs ih =>
    obtain ⟨first, rest, hparts⟩ := List.exists_cons_of_ne_nil (splitOn_ne_nil separator cs)
    rw [splitOn, hparts] at h
    rw [hparts] at ih
    split at h
    · rcases List.mem_cons.1 h with rfl | h
      · exact List.not_mem_nil
      · exact ih h
    · next hc =>
      rcases List.mem_cons.1 h with rfl | h
      · rw [List.mem_cons, not_or]
        exact ⟨Ne.symm hc, ih List.mem_cons_self⟩
      · exact ih (List.mem_cons_of_mem _ h)

/-- Every character of a text separates its parts or is in one. -/
theorem mem_splitOn (h : c ∈ cs) : c = separator ∨ ∃ part ∈ splitOn separator cs, c ∈ part := by
  induction cs with
  | nil => cases h
  | cons d cs ih =>
    obtain ⟨first, rest, hparts⟩ := List.exists_cons_of_ne_nil (splitOn_ne_nil separator cs)
    rw [splitOn, hparts]
    rw [hparts] at ih
    by_cases hd : d = separator
    · rw [if_pos hd]
      rcases List.mem_cons.1 h with rfl | h
      · exact .inl hd
      · rcases ih h with h | ⟨part, hpart, hc⟩
        · exact .inl h
        · exact .inr ⟨part, List.mem_cons_of_mem _ hpart, hc⟩
    · rw [if_neg hd]
      rcases List.mem_cons.1 h with rfl | h
      · exact .inr ⟨_, List.mem_cons_self, List.mem_cons_self⟩
      · rcases ih h with h | ⟨part, hpart, hc⟩
        · exact .inl h
        · rcases List.mem_cons.1 hpart with rfl | hpart
          · exact .inr ⟨_, List.mem_cons_self, List.mem_cons_of_mem _ hc⟩
          · exact .inr ⟨part, List.mem_cons_of_mem _ hpart, hc⟩

/-! ## The last of a character -/

theorem not_mem_or_exists_last (separator : Char) (cs : List Char) :
    separator ∉ cs ∨ ∃ front back, cs = front ++ separator :: back ∧ separator ∉ back := by
  by_cases h : separator ∈ cs.reverse
  · obtain ⟨back, front, hcs, hback⟩ := List.eq_append_cons_of_mem h
    refine .inr ⟨front.reverse, back.reverse, ?_, by rwa [List.mem_reverse]⟩
    rw [← List.reverse_reverse cs, hcs]
    simp
  · exact .inl (by rwa [List.mem_reverse] at h)

theorem takeWhile_reverse_of_not_mem (h : separator ∉ cs) :
    (cs.reverse.takeWhile (· ≠ separator)).reverse = cs := by
  rw [List.takeWhile_eq_self_iff.2, List.reverse_reverse]
  intro c hc
  rw [decide_eq_true_iff]
  rintro rfl
  exact h (List.mem_reverse.1 hc)

theorem ne_of_mem_reverse (h : separator ∉ back) : ∀ c ∈ back.reverse, decide (c ≠ separator) = true := by
  intro c hc
  rw [decide_eq_true_iff]
  rintro rfl
  exact h (List.mem_reverse.1 hc)

theorem takeWhile_reverse_append (h : separator ∉ back) :
    ((front ++ separator :: back).reverse.takeWhile (· ≠ separator)).reverse = back := by
  rw [List.reverse_append, List.reverse_cons, List.append_assoc,
    List.takeWhile_append_of_pos (ne_of_mem_reverse h), List.singleton_append,
    List.takeWhile_cons_of_neg (by simp), List.append_nil, List.reverse_reverse]

theorem dropWhile_reverse_append (h : separator ∉ back) :
    ((front ++ separator :: back).reverse.dropWhile (· ≠ separator)).reverse =
      front ++ [separator] := by
  rw [List.reverse_append, List.reverse_cons, List.append_assoc,
    List.dropWhile_append_of_pos (ne_of_mem_reverse h), List.singleton_append,
    List.dropWhile_cons_of_neg (by simp), List.reverse_cons, List.reverse_reverse]

theorem take_append_cons (front back : List Char) (c : Char) :
    (front ++ c :: back).take ((front ++ c :: back).length - back.length - 1) = front := by
  have hlength : (front ++ c :: back).length - back.length - 1 = front.length := by
    rw [List.length_append, List.length_cons]
    omega
  rw [hlength, List.take_left]

end NamedKeys.Text
