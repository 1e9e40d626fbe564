import NamedKeys.Path
import NamedKeys.Proofs.Text.Split

/-!
# Paths and their texts

A path that a text can name has names that are neither empty nor a single dot and hold no slash (`IsNamed`),
and its text names it again (`IsNamed.ofText_text`).  Such a name leads from a path to an entry of the folder
there and nowhere else (`join_name`).  A name with a dot inside is cut before the last one into its stem and
its suffix (`stem_append`, `suffix_append`).
-/

namespace NamedKeys.Path

open NamedKeys.Text

/-! ## Names -/

/-- A name that a text can give to a step of a path. -/
structure IsName (name : String) : Prop where
  ne_empty : name ≠ ""
  ne_dot : name ≠ "."
  noSlash : '/' ∉ name.toList

/-- A path that a text can name. -/
structure IsNamed (path : Path) : Prop where
  anchor : path.anchor = "" ∨ path.anchor = "/" ∨ path.anchor = "//"
  names : ∀ name ∈ path.names, IsName name

theorem isNamed_ofText (text : String) : (ofText text).IsNamed where
  anchor := by
    rw [ofText, anchorOf]
    split
    · exact .inl rfl
    · exact .inr (.inr rfl)
    · exact .inr (.inl rfl)
  names name hname := by
    obtain ⟨hfound, hkept⟩ := List.mem_filter.1 hname
    rw [Bool.and_eq_true, decide_eq_true_eq, decide_eq_true_eq] at hkept
    obtain ⟨part, hpart, rfl⟩ := List.mem_map.1 hfound
    refine ⟨hkept.1, hkept.2, ?_⟩
    rw [String.toList_ofList]
    exact not_mem_of_mem_splitOn hpart

theorem IsNamed.child {path : Path} (h : path.IsNamed) {name : String} (hname : IsName name) :
    (path.child name).IsNamed where
  anchor := h.anchor
  names other hother := by
    rcases List.mem_append.1 hother with hother | hother
    · exact h.names other hother
    · rwa [List.mem_singleton.1 hother]

/-! ## Texts -/

theorem toList_joined (names : List String) :
    ("/".intercalate names).toList = joinWith ['/'] (names.map String.toList) := by
  rw [String.toList_intercalate, joinWith_eq_intercalate]
  rfl

theorem head?_joined {names : List String} (h : ∀ name ∈ names, IsName name) :
    ("/".intercalate names).toList.head? ≠ some '/' := by
  rw [toList_joined]
  match names with
  | [] => exact nofun
  | name :: names =>
    have hname := h name List.mem_cons_self
    obtain ⟨c, cs, hcs⟩ := List.exists_cons_of_ne_nil fun hnil => hname.ne_empty (String.toList_eq_nil_iff.1 hnil)
    have hc : c ≠ '/' := by
      rintro rfl
      exact hname.noSlash (hcs ▸ List.mem_cons_self)
    cases names with
    | nil =>
      rw [List.map_singleton, joinWith, hcs]
      exact fun hhead => hc (Option.some.inj hhead)
    | cons next names =>
      rw [List.map_cons, List.map_cons, joinWith_cons_cons, hcs]
      exact fun hhead => hc (Option.some.inj hhead)

/-- The names of a text are found between its slashes. -/
theorem names_joined {names : List String} (h : ∀ name ∈ names, IsName name) :
    ((splitOn '/' ("/".intercalate names).toList).map String.ofList).filter
      (fun name => name ≠ "" && name ≠ ".") = names := by
  cases hnames : names with
  | nil => decide
  | cons first rest =>
    rw [← hnames, toList_joined, splitOn_joinWith, List.map_map]
    · have hread : names.map (String.ofList ∘ String.toList) = names :=
        List.map_id'' (fun name => String.ofList_toList) names
      rw [hread, List.filter_eq_self]
      intro name hname
      simp [(h name hname).ne_empty, (h name hname).ne_dot]
    · rw [hnames]
      exact List.cons_ne_nil _ _
    · intro part hpart
      obtain ⟨name, hname, rfl⟩ := List.mem_map.1 hpart
      exact (h name hname).noSlash

/-- What follows the slashes at the front of a text does not count for its anchor. -/
theorem anchorOf_append {anchor : String} (h : anchor = "" ∨ anchor = "/" ∨ anchor = "//")
    {rest : List Char} (hrest : rest.head? ≠ some '/') : anchorOf (anchor.toList ++ rest) = anchor := by
  have hstop : rest.takeWhile (· = '/') = [] := by
    cases rest with
    | nil => rfl
    | cons c rest => exact List.takeWhile_cons_of_neg (by simpa using fun hc => hrest (congrArg some hc))
  rcases h with rfl | rfl | rfl
  · rw [anchorOf, String.toList_empty, List.nil_append, hstop]
    rfl
  · have hslash : "/".toList ++ rest = '/' :: rest := rfl
    rw [anchorOf, hslash, List.takeWhile_cons_of_pos (by decide), hstop]
    rfl
  · have hslashes : "//".toList ++ rest = '/' :: '/' :: rest := rfl
    rw [anchorOf, hslashes, List.takeWhile_cons_of_pos (by decide),
      List.takeWhile_cons_of_pos (by decide), hstop]
    rfl

/-- Slashes at the front of a text are no names. -/
theorem names_append {anchor : String} (h : anchor = "" ∨ anchor = "/" ∨ anchor = "//") (rest : List Char) :
    ((splitOn '/' (anchor.toList ++ rest)).map String.ofList).filter (fun name => name ≠ "" && name ≠ ".") =
      ((splitOn '/' rest).map String.ofList).filter (fun name => name ≠ "" && name ≠ ".") := by
  rcases h with rfl | rfl | rfl <;> rfl

/-- The text of a path names it. -/
theorem IsNamed.ofText_text {path : Path} (h : path.IsNamed) : ofText path.text = path := by
  obtain ⟨anchor, names⟩ := path
  rw [text]
  split
  · next hempty =>
    obtain ⟨rfl, rfl⟩ := hempty
    decide
  · rw [ofText, String.toList_append, anchorOf_append h.anchor (head?_joined h.names),
      names_append h.anchor, names_joined h.names]

/-! ## Joining -/

/-- The path that a text leads to from the end of a path: its names are followed from there, unless it begins
at the root. -/
def join (path : Path) (text : String) : Path :=
  if (ofText text).isAbsolute then ofText text
  else { path with names := path.names ++ (ofText text).names }

/-- A name leads to an entry of the folder at a path. -/
theorem join_name (path : Path) {name : String} (h : IsName name) : path.join name = path.child name := by
  have hnamed : IsNamed ⟨"", [name]⟩ := ⟨.inl rfl, by simpa using h⟩
  have htext : text ⟨"", [name]⟩ = name := by
    rw [text, if_neg (by simp), String.intercalate_singleton, String.empty_append]
  have hread : ofText name = ⟨"", [name]⟩ := by
    conv_lhs => rw [← htext]
    exact hnamed.ofText_text
  rw [join, hread]
  rfl

/-! ## Stems and suffixes -/

/-- What follows the stem of a name: its last dot and what stands after it, unless the dot is the first or the
last character. -/
def suffix (name : String) : String :=
  if stem name = name then ""
  else String.ofList ('.' :: (name.toList.reverse.takeWhile (· ≠ '.')).reverse)

variable {front back : List Char}

theorem stem_append (hfront : front ≠ []) (hback : back ≠ []) (hdot : '.' ∉ back) :
    stem (String.ofList (front ++ '.' :: back)) = String.ofList front := by
  have hending : (front ++ '.' :: back).reverse.takeWhile (· ≠ '.') = back.reverse := by
    rw [← List.reverse_reverse ((front ++ '.' :: back).reverse.takeWhile (· ≠ '.')),
      takeWhile_reverse_append hdot]
  have hbefore : (front ++ '.' :: back).reverse.drop (back.reverse.length + 1) = front.reverse := by
    rw [List.reverse_append, List.reverse_cons, List.append_assoc, List.drop_append]
    simp
  unfold stem
  dsimp only
  rw [String.toList_ofList, hending, hbefore, List.reverse_reverse,
    if_neg (by simp [hfront, hback])]

theorem suffix_append (hfront : front ≠ []) (hback : back ≠ []) (hdot : '.' ∉ back) :
    suffix (String.ofList (front ++ '.' :: back)) = String.ofList ('.' :: back) := by
  have hne : String.ofList front ≠ String.ofList (front ++ '.' :: back) := by
    intro h
    have hlength := congrArg List.length (String.ofList_injective h)
    rw [List.length_append, List.length_cons] at hlength
    omega
  rw [suffix, stem_append hfront hback hdot, if_neg hne, String.toList_ofList,
    takeWhile_reverse_append hdot]

end NamedKeys.Path
