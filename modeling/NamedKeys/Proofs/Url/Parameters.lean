import Mathlib.Data.List.Basic
import NamedKeys.Proofs.Frame
import NamedKeys.Proofs.Text.Digits
import NamedKeys.Proofs.Text.Words

/-!
# The parameters of a request

How the query of a URL is read by whoever receives it: cut at ampersands, each part at its first equality
sign, with plus signs for blanks and percent signs for octets (`parameters`).  The URL of a request with one
parameter, whatever its value and whatever the URL it is made from, is read as a URL with this parameter and
no other:

    request cs name value = .ok url →
      url.parameters = [(encode name, encode value)]     (parameters_request)
-/

namespace NamedKeys

namespace Url

open NamedKeys.Text

/-! ## Reading parameters -/

/-- The octets of the name or the value of a parameter. -/
def octetsOfPart : List Char → List UInt8
  | [] => []
  | '+' :: cs => 32 :: octetsOfPart cs
  | '%' :: high :: low :: cs =>
    match octetsOfHex? [high, low] with
    | some octets => octets ++ octetsOfPart cs
    | none => Utf8.encodeChar '%' ++ octetsOfPart (high :: low :: cs)
  | c :: cs => Utf8.encodeChar c ++ octetsOfPart cs

/-- The parameters of a URL with their values. -/
def parameters (url : Url) : List (List UInt8 × List UInt8) :=
  match url.query with
  | none => []
  | some query => (splitOn '&' query).map fun part =>
    let (name, value) := cut '=' part
    (octetsOfPart name, octetsOfPart (value.getD []))

/-! ## Percent signs -/

theorem percent_eq (b : UInt8) :
    percent b = ['%', upperHexDigit (b.toNat / 16), upperHexDigit (b.toNat % 16)] := by
  have hhigh : b.toNat / Nat.pow 16 1 % 16 = b.toNat / 16 := by
    have := b.toNat_lt
    rw [show Nat.pow 16 1 = 16 from rfl]
    omega
  have hlow : b.toNat / Nat.pow 16 0 % 16 = b.toNat % 16 := by
    rw [show Nat.pow 16 0 = 1 from rfl, Nat.div_one]
  simp only [percent, hexDigits, hhigh, hlow]

theorem octetsOfPart_percent (b : UInt8) (cs : List Char) :
    octetsOfPart (percent b ++ cs) = b :: octetsOfPart cs := by
  rw [percent_eq, List.cons_append, List.cons_append, List.cons_append, List.nil_append, octetsOfPart,
    octetsOfHex?_upperHexDigit]
  rfl

/-- A character that stands for itself in a part. -/
theorem octetsOfPart_cons {c : Char} (hplus : c ≠ '+') (hpercent : c ≠ '%') (cs : List Char) :
    octetsOfPart (c :: cs) = Utf8.encodeChar c ++ octetsOfPart cs := by
  rw [octetsOfPart]
  · exact hplus
  · rintro _ _ _ rfl
    exact fun _ => hpercent rfl

/-! ## Parts of a query -/

theorem ne_of_isUnreserved {c d : Char} (h : isUnreserved c = true) (hd : isUnreserved d = false) :
    c ≠ d := by
  rintro rfl
  rw [h] at hd
  cases hd

/-- The characters of the parts of a query: they stand in the query as they are, and separate nothing. -/
def IsPartChar (c : Char) : Prop :=
  isUnreserved c = true ∨ c = '+' ∨ c = '%'

theorem isUnreserved_upperHexDigit : ∀ n < 16, isUnreserved (upperHexDigit n) = true := by
  decide

theorem isPartChar_percent (b : UInt8) : ∀ c ∈ percent b, IsPartChar c := by
  have hb := b.toNat_lt
  intro c hc
  rw [percent_eq] at hc
  simp only [List.mem_cons, List.not_mem_nil, or_false] at hc
  rcases hc with rfl | rfl | rfl
  · exact .inr (.inr rfl)
  · exact .inl (isUnreserved_upperHexDigit _ (by omega))
  · exact .inl (isUnreserved_upperHexDigit _ (by omega))

theorem IsPartChar.isSafeInQuery {c : Char} (h : IsPartChar c) : isSafeInQuery c = true := by
  rcases h with h | rfl | rfl
  · rw [Url.isSafeInQuery, isSignBut, h, Bool.true_or]
  · simp [Url.isSafeInQuery, isSignBut]
  · simp [Url.isSafeInQuery, isSignBut]

theorem IsPartChar.ne {c d : Char} (h : IsPartChar c) (hd : isUnreserved d = false) (hplus : '+' ≠ d)
    (hpercent : '%' ≠ d) : c ≠ d := by
  rcases h with h | rfl | rfl
  · exact ne_of_isUnreserved h hd
  · exact hplus
  · exact hpercent

/-- Each character of a value is written on its own. -/
theorem parameterText_cons (c : Char) (cs : List Char) :
    parameterText (String.ofList (c :: cs)) =
      (if c = ' ' then ['+'] else if isUnreserved c then [c]
        else (Utf8.encodeChar c).flatMap percent) ++ parameterText (String.ofList cs) := by
  simp only [parameterText, escape, String.toList_ofList, List.flatMap_cons, List.flatMap_nil,
    List.append_nil]

theorem octetsOfPart_percents (octets : List UInt8) (cs : List Char) :
    octetsOfPart (octets.flatMap percent ++ cs) = octets ++ octetsOfPart cs := by
  induction octets with
  | nil => rfl
  | cons b octets ih =>
    rw [List.flatMap_cons, List.append_assoc, octetsOfPart_percent, ih, List.cons_append]

theorem octetsOfPart_parameterText (value : String) :
    octetsOfPart (parameterText value) = Utf8.encode value.toList := by
  obtain ⟨cs, rfl⟩ : ∃ cs, value = String.ofList cs := ⟨value.toList, String.ofList_toList.symm⟩
  rw [String.toList_ofList]
  induction cs with
  | nil => rfl
  | cons c cs ih =>
    rw [parameterText_cons, Utf8.encode, List.flatMap_cons, ← Utf8.encode, ← ih]
    split
    · next hblank =>
      subst hblank
      rfl
    · split
      · next hsafe =>
        exact octetsOfPart_cons (ne_of_isUnreserved hsafe (by simp [isUnreserved]))
          (ne_of_isUnreserved hsafe (by simp [isUnreserved])) _
      · exact octetsOfPart_percents _ _

theorem isPartChar_parameterText (value : String) : ∀ c ∈ parameterText value, IsPartChar c := by
  intro c hc
  obtain ⟨d, -, hd⟩ := List.mem_flatMap.1 hc
  split at hd
  · rw [List.mem_singleton.1 hd]
    exact .inr (.inl rfl)
  · simp only [escape, List.flatMap_cons, List.flatMap_nil, List.append_nil] at hd
    split at hd
    · next hsafe =>
      rw [List.mem_singleton.1 hd]
      exact .inl hsafe
    · obtain ⟨b, -, hb⟩ := List.mem_flatMap.1 hd
      exact isPartChar_percent b c hb

theorem parameterText_eq_self {name : String} (h : ∀ c ∈ name.toList, isUnreserved c = true) :
    parameterText name = name.toList := by
  have hchar : ∀ c ∈ name.toList, (if c = ' ' then ['+'] else escape isUnreserved [c]) = [c] := by
    intro c hc
    have hblank : c ≠ ' ' := ne_of_isUnreserved (h c hc) (by simp [isUnreserved])
    rw [if_neg hblank, escape, List.flatMap_singleton, if_pos (h c hc)]
  rw [parameterText, List.flatMap_congr hchar, List.flatMap_singleton']

/-! ## The raw parts of a URL -/

/-- No part of a URL is too long to be read once more. -/
structure Fits (url : Url) : Prop where
  scheme : url.scheme.length ≤ mostCharacters
  authority : url.authority.length ≤ mostCharacters
  path : url.path.length ≤ mostCharacters
  query : ∀ query ∈ url.query, query.length ≤ mostCharacters
  fragment : ∀ fragment ∈ url.fragment, fragment.length ≤ mostCharacters

/-- A test that lets nothing pass but what it lets go on. -/
theorem throw_else_eq_ok_iff {α : Type} {p : Prop} [Decidable p] {fault : Fault}
    {never rest : Except Fault α} {a : α} :
    (if p then (do throw fault; never) else rest) = .ok a ↔ ¬p ∧ rest = .ok a := by
  split
  · next hp => exact iff_of_false nofun fun h => h.1 hp
  · next hp => exact (and_iff_right hp).symm

theorem raw_eq_ok_iff {url : Url} {raw : Raw} : url.raw = .ok raw ↔
    url.Fits ∧ raw = ⟨url.scheme, url.authority, url.path, url.query, url.fragment⟩ := by
  have hany : ∀ part : Option (List Char), ¬part.any (fun cs => cs.length > mostCharacters) = true ↔
      ∀ cs ∈ part, cs.length ≤ mostCharacters := by
    intro part
    cases part <;> simp
  rw [Url.raw]
  simp only [throw_else_eq_ok_iff, hany, Nat.not_lt]
  constructor
  · rintro ⟨hscheme, hauthority, hpath, hquery, hfragment, h⟩
    exact ⟨⟨hscheme, hauthority, hpath, hquery, hfragment⟩, (Except.ok.inj h).symm⟩
  · rintro ⟨⟨hscheme, hauthority, hpath, hquery, hfragment⟩, rfl⟩
    exact ⟨hscheme, hauthority, hpath, hquery, hfragment, rfl⟩

/-! ## The query of a request -/

theorem escape_eq_self {isSafe : Char → Bool} {cs : List Char} (h : ∀ c ∈ cs, isSafe c = true) :
    escape isSafe cs = cs := by
  rw [escape]
  induction cs with
  | nil => rfl
  | cons c cs ih =>
    rw [List.flatMap_cons, if_pos (h c List.mem_cons_self),
      ih fun d hd => h d (List.mem_cons_of_mem _ hd), List.singleton_append]

theorem query_ofRaw {raw : Raw} {url : Url} (h : ofRaw raw = .ok url) :
    url.query = raw.query.map (escape isSafeInQuery) := by
  obtain ⟨host, -, h⟩ := exists_of_bind_ok h
  obtain ⟨port, -, h⟩ := exists_of_bind_ok h
  obtain ⟨-, -, h⟩ := exists_of_bind_ok h
  rw [← Except.ok.inj h]

theorem query_request {cs : List Char} {name value : String} {url : Url}
    (h : request cs name value = .ok url) :
    url.query = some (escape isSafeInQuery (name.toList ++ '=' :: parameterText value)) := by
  -- whatever the parts of the URL are that the request is made from, its query is left out
  have hwith : ∀ base : Url, ({ base with
      query := some (name.toList ++ '=' :: parameterText value) }.raw >>= ofRaw) = .ok url →
        url.query = some (escape isSafeInQuery (name.toList ++ '=' :: parameterText value)) := by
    intro base hbase
    obtain ⟨raw, hraw, hurl⟩ := exists_of_bind_ok hbase
    obtain ⟨-, rfl⟩ := raw_eq_ok_iff.1 hraw
    rw [query_ofRaw hurl]
    rfl
  obtain ⟨base, -, h⟩ := exists_of_bind_ok h
  dsimp only at h
  split at h
  · exact hwith _ h
  · obtain ⟨raw, -, h⟩ := exists_of_bind_ok h
    obtain ⟨near, -, h⟩ := exists_of_bind_ok h
    exact hwith _ h

/-- A request has one parameter, whatever URL it is made from. -/
theorem parameters_request {cs : List Char} {name value : String} {url : Url}
    (hname : ∀ c ∈ name.toList, isUnreserved c = true) (h : request cs name value = .ok url) :
    url.parameters = [(Utf8.encode name.toList, Utf8.encode value.toList)] := by
  have hsafe : ∀ c ∈ parameterText name ++ '=' :: parameterText value,
      isSafeInQuery c = true ∧ c ≠ '&' := by
    have hpart : ∀ {text : String}, ∀ c ∈ parameterText text, isSafeInQuery c = true ∧ c ≠ '&' := by
      intro text c hc
      have hchar := isPartChar_parameterText text c hc
      exact ⟨hchar.isSafeInQuery, hchar.ne (by simp [isUnreserved]) (by decide) (by decide)⟩
    intro c hc
    rcases List.mem_append.1 hc with hc | hc
    · exact hpart c hc
    · rcases List.mem_cons.1 hc with rfl | hc
      · exact ⟨by simp [isSafeInQuery, isSignBut], by decide⟩
      · exact hpart c hc
  have hequals : '=' ∉ parameterText name := fun hmem =>
    (isPartChar_parameterText name _ hmem).ne (by simp [isUnreserved]) (by decide) (by decide) rfl
  have hquery := query_request h
  rw [← parameterText_eq_self hname, escape_eq_self fun c hc => (hsafe c hc).1] at hquery
  rw [parameters, hquery]
  dsimp only
  rw [splitOn_of_not_mem fun hmem => (hsafe _ hmem).2 rfl, List.map_singleton, cut_append hequals]
  dsimp only [Option.getD_some]
  rw [octetsOfPart_parameterText, octetsOfPart_parameterText]

end Url

end NamedKeys
