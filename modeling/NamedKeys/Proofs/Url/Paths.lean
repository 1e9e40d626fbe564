import NamedKeys.Proofs.Text.Split
import NamedKeys.Proofs.Url.Escape

/-!
# Paths are read again

Reading a path leaves an empty part in front and then parts without slashes that are neither single nor double
dots (`Resolved.addPart`, `resolved_resolveDots`).  Escaping makes no slashes and no dots, so a path that has
been read and escaped is read as itself (`readPath_escape`) and still begins with a slash, if with anything
(`isRooted_escape`).
-/

namespace NamedKeys

namespace Url

open NamedKeys.Text

variable {path part : List Char} {parts done : List (List Char)}

/-- A path begins with a slash, if with anything. -/
def IsRooted (path : List Char) : Prop :=
  path = [] ∨ path.head? = some '/'

/-! ## Parts without dots -/

def IsNoDot (part : List Char) : Prop :=
  part ≠ ['.'] ∧ part ≠ ['.', '.']

/-- The parts of a path that begins with a slash, without dots. -/
def Resolved (done : List (List Char)) : Prop :=
  ∃ more, done = [] :: more ∧ ∀ part ∈ more, IsNoDot part ∧ '/' ∉ part

theorem Resolved.addPart (h : Resolved done) (hpart : '/' ∉ part) : Resolved (addPart done part) := by
  obtain ⟨more, rfl, hmore⟩ := h
  rw [Url.addPart]
  split
  · exact ⟨more, rfl, hmore⟩
  · next hsingle =>
    split
    · split
      · exact ⟨more, rfl, hmore⟩
      · next hdone =>
        have hne : more ≠ [] := fun hnil => hdone (hnil ▸ rfl)
        exact ⟨more.dropLast, List.dropLast_cons_of_ne_nil hne,
          fun found hfound => hmore found (List.dropLast_subset _ hfound)⟩
    · next hdouble =>
      refine ⟨more ++ [part], rfl, fun found hfound => ?_⟩
      rcases List.mem_append.1 hfound with hfound | hfound
      · exact hmore found hfound
      · rw [List.mem_singleton.1 hfound]
        exact ⟨⟨hsingle, hdouble⟩, hpart⟩

theorem Resolved.foldl (h : Resolved done) (hparts : ∀ part ∈ parts, '/' ∉ part) :
    Resolved (parts.foldl Url.addPart done) := by
  induction parts generalizing done with
  | nil => exact h
  | cons part parts ih =>
    exact ih (h.addPart (hparts part List.mem_cons_self))
      fun found hfound => hparts found (List.mem_cons_of_mem _ hfound)

/-- What is left of a path that begins with a slash. -/
theorem resolved_resolveDots (h : IsRooted path) : Resolved (resolveDots (splitOn '/' path)) := by
  have hstart : Resolved [[]] := ⟨[], rfl, by simp⟩
  rcases h with rfl | h
  · exact hstart
  · obtain ⟨rest, rfl⟩ : ∃ rest, path = '/' :: rest := by
      cases path with
      | nil => cases h
      | cons c rest => exact ⟨rest, by rw [Option.some.inj h]⟩
    exact hstart.foldl fun part hpart => not_mem_of_mem_splitOn hpart

theorem foldl_addPart (h : ∀ part ∈ parts, IsNoDot part) :
    parts.foldl addPart done = done ++ parts := by
  induction parts generalizing done with
  | nil => rw [List.foldl_nil, List.append_nil]
  | cons part parts ih =>
    obtain ⟨hsingle, hdouble⟩ := h part List.mem_cons_self
    rw [List.foldl_cons, addPart, if_neg hsingle, if_neg hdouble,
      ih fun found hfound => h found (List.mem_cons_of_mem _ hfound), List.append_assoc,
      List.singleton_append]

/-! ## Escaped parts -/

theorem escape_joinWith {isSafe : Char → Bool} (h : isSafe '/' = true) (parts : List (List Char)) :
    escape isSafe (joinWith ['/'] parts) = joinWith ['/'] (parts.map (escape isSafe)) := by
  induction parts with
  | nil => rfl
  | cons part parts ih =>
    cases parts with
    | nil => rfl
    | cons next parts =>
      have hslash : escape isSafe ['/'] = ['/'] := escape_eq_self (by simpa using h)
      rw [joinWith_cons_cons, escape_append, escape_append, hslash, ih]
      rfl

/-- An escaped text without percent signs is the text. -/
theorem eq_of_escape {isSafe : Char → Bool} {cs : List Char} (h : '%' ∉ escape isSafe cs) :
    escape isSafe cs = cs := by
  refine escape_eq_self fun c hc => ?_
  by_contra hsafe
  obtain ⟨b, rest, hb⟩ : ∃ b rest, Utf8.encodeChar c = b :: rest := by
    unfold Utf8.encodeChar
    dsimp only
    split
    · exact ⟨_, _, rfl⟩
    split
    · exact ⟨_, _, rfl⟩
    split <;> exact ⟨_, _, rfl⟩
  refine h (List.mem_flatMap.2 ⟨c, hc, ?_⟩)
  rw [if_neg hsafe, hb, List.flatMap_cons, percent_eq]
  exact List.mem_cons_self

theorem IsNoDot.escape (h : IsNoDot part) (isSafe : Char → Bool) : IsNoDot (escape isSafe part) := by
  constructor <;> intro heq
  · exact h.1 (by rw [← heq, eq_of_escape (by rw [heq]; decide)])
  · exact h.2 (by rw [← heq, eq_of_escape (by rw [heq]; decide)])

theorem Resolved.escape (h : Resolved done) (isSafe : Char → Bool) :
    Resolved (done.map (escape isSafe)) := by
  obtain ⟨more, rfl, hmore⟩ := h
  refine ⟨more.map (Url.escape isSafe), rfl, fun part hpart => ?_⟩
  obtain ⟨found, hfound, rfl⟩ := List.mem_map.1 hpart
  refine ⟨(hmore found hfound).1.escape isSafe, fun hmem => (hmore found hfound).2 ?_⟩
  exact mem_of_mem_escape (by simp [isUnreserved]) (by decide) (by decide) hmem

/-! ## Paths once more -/

theorem readPath_joinWith (h : Resolved done) : readPath (joinWith ['/'] done) = joinWith ['/'] done := by
  obtain ⟨more, rfl, hmore⟩ := h
  have hsplit : splitOn '/' (joinWith ['/'] ([] :: more)) = [] :: more := by
    refine splitOn_joinWith (List.cons_ne_nil _ _) fun part hpart => ?_
    rcases List.mem_cons.1 hpart with rfl | hpart
    · exact List.not_mem_nil
    · exact (hmore part hpart).2
  have hdots : ∀ part ∈ [] :: more, IsNoDot part := by
    intro part hpart
    rcases List.mem_cons.1 hpart with rfl | hpart
    · exact ⟨by decide, by decide⟩
    · exact (hmore part hpart).1
  rw [readPath, hsplit, resolveDots, foldl_addPart hdots, List.nil_append]

theorem isRooted_joinWith (h : Resolved done) : IsRooted (joinWith ['/'] done) := by
  obtain ⟨more, rfl, -⟩ := h
  cases more with
  | nil => exact .inl rfl
  | cons next more => exact .inr rfl

theorem isSafeInPath_slash : isSafeInPath '/' = true := by
  simp [isSafeInPath, isSignBut, isUnreserved]

theorem escape_readPath (h : IsRooted path) : ∃ done, Resolved done ∧
    escape isSafeInPath (readPath path) = joinWith ['/'] done :=
  ⟨_, (resolved_resolveDots h).escape isSafeInPath, escape_joinWith isSafeInPath_slash _⟩

/-- A path that has been read and escaped is read as it is. -/
theorem readPath_escape (h : IsRooted path) :
    readPath (escape isSafeInPath (readPath path)) = escape isSafeInPath (readPath path) := by
  obtain ⟨done, hdone, heq⟩ := escape_readPath h
  rw [heq, readPath_joinWith hdone]

theorem isRooted_escape (h : IsRooted path) : IsRooted (escape isSafeInPath (readPath path)) := by
  obtain ⟨done, hdone, heq⟩ := escape_readPath h
  rw [heq]
  exact isRooted_joinWith hdone

end Url

end NamedKeys
