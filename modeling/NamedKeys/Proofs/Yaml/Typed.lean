import NamedKeys.Proofs.Secret.Fronts
import NamedKeys.Proofs.Yaml.Shown

/-!
# Values that are no texts

A value that is no text has a text all the same, but for numbers of too many digits in it.  No secret
begins like any of these texts, whatever texts the value holds:

    v.text? = some text → ¬ v.IsText → Secret.parse text = .error .unknownSecret       (parse_text?)
    v.IsShown ↔ ∀ i, v.Holds i → ¬ IsLong i                                            (isShown_iff)
-/

namespace NamedKeys

/-! ## Beginnings -/

/-- A text that begins with an ASCII sign other than a small letter or `S` is refused. -/
theorem Secret.parse_of_head {text : String} {c : Char} (h : text.toList.head? = some c)
    (hsign : 33 ≤ c.toNat ∧ c.toNat ≤ 126) (hkey : c ≠ 'S') (hsmall : ¬ ('a' ≤ c ∧ c ≤ 'z')) :
    parse text = .error .unknownSecret := by
  obtain ⟨rest, hrest⟩ := List.head?_eq_some_iff.1 h
  have hfront : [c] <+: text.toList := by
    rw [hrest]
    exact List.prefix_append [c] rest
  refine parse_of_front hfront (by simpa using hsign) ?_ hkey ⟨c, List.mem_singleton_self c, hsmall⟩
  rintro rfl
  exact hsmall (by decide)

def BeginsWithDigit (cs : List Char) : Prop :=
  ∃ c, cs.head? = some c ∧ c.isDigit = true

namespace BeginsWithDigit

theorem append {cs : List Char} (h : BeginsWithDigit cs) (rest : List Char) :
    BeginsWithDigit (cs ++ rest) := by
  obtain ⟨c, hc, hdigit⟩ := h
  exact ⟨c, by rw [List.head?_append, hc, Option.some_or], hdigit⟩

theorem take {cs : List Char} (h : BeginsWithDigit cs) {n : Nat} (hn : 0 < n) :
    BeginsWithDigit (cs.take n) := by
  obtain ⟨c, hc, hdigit⟩ := h
  exact ⟨c, by rw [List.head?_take, if_neg (by omega), hc], hdigit⟩

theorem toDigits (n : Nat) : BeginsWithDigit (Nat.toDigits 10 n) := by
  obtain ⟨c, cs, hcs⟩ := List.exists_cons_of_ne_nil (Nat.toDigits_ne_nil (n := n) (b := 10))
  have hc : c ∈ Nat.toDigits 10 n := by
    rw [hcs]
    exact List.mem_cons_self
  exact ⟨c, by rw [hcs]; rfl, Nat.isDigit_of_mem_toDigits (by decide) (by decide) hc⟩

theorem padded (width n : Nat) : BeginsWithDigit (Yaml.padded width n).toList := by
  rw [Yaml.padded, String.toList_ofList]
  cases width - (Nat.toDigits 10 n).length with
  | zero => exact toDigits n
  | succ k => exact ⟨'0', rfl, rfl⟩

/-- No secret begins with a digit. -/
theorem parse_eq {text : String} (h : BeginsWithDigit text.toList) :
    Secret.parse text = .error .unknownSecret := by
  obtain ⟨c, hc, hdigit⟩ := h
  have hrange : 48 ≤ c.toNat ∧ c.toNat ≤ 57 := by
    simpa [Char.isDigit, UInt32.le_iff_toNat_le] using hdigit
  refine Secret.parse_of_head hc (by omega) ?_ ?_
  · rintro rfl
    revert hdigit
    decide
  · rintro ⟨hsmall, -⟩
    have : 97 ≤ c.toNat := UInt32.le_iff_toNat_le.1 hsmall
    omega

end BeginsWithDigit

/-! ## Atoms -/

/-- No secret begins with a sign of less. -/
theorem Secret.parse_of_minus {text : String} (h : text.toList.head? = some '-') :
    parse text = .error .unknownSecret :=
  parse_of_head h (by decide) (by decide) (by decide)

theorem Secret.parse_toString (i : Int) : parse (toString i) = .error .unknownSecret := by
  cases i with
  | ofNat n =>
    refine BeginsWithDigit.parse_eq ?_
    change BeginsWithDigit n.repr.toList
    rw [Nat.toList_repr]
    exact .toDigits n
  | negSucc n =>
    refine parse_of_minus ?_
    change ("-" ++ n.succ.repr).toList.head? = some '-'
    rw [String.toList_append]
    rfl

theorem Decimal.beginsWithDigit_text (d : Numeral) : BeginsWithDigit d.text.toList := by
  have hdigits := BeginsWithDigit.toDigits d.digits
  unfold Numeral.text
  dsimp only
  rw [String.toList_ofList]
  split
  · exact ⟨'0', rfl, rfl⟩
  · split
    · split
      · exact ⟨'0', rfl, rfl⟩
      · split
        · rw [List.append_assoc]
          exact hdigits.append _
        · exact (hdigits.take (by omega)).append _
    · simp only [List.append_assoc]
      exact (hdigits.take (by decide)).append _

theorem Secret.parse_textOfBits (bits : UInt64) :
    parse (Decimal.textOfBits bits) = .error .unknownSecret := by
  unfold Decimal.textOfBits
  dsimp only
  split
  · split
    · rfl
    · split
      · exact parse_of_minus rfl
      · rfl
  · split
    · refine parse_of_minus ?_
      rw [String.toList_append]
      rfl
    · rw [String.empty_append]
      exact (Decimal.beginsWithDigit_text _).parse_eq

theorem Text.quoteFor_cases (cs : List Char) : quoteFor cs = '"' ∨ quoteFor cs = '\'' := by
  unfold quoteFor
  split
  · exact .inl rfl
  · exact .inr rfl

/-- Quoted octets begin with the letter `b` and a quote. -/
theorem Secret.parse_quotedOctets (octets : List UInt8) :
    parse (Text.quotedOctets octets) = .error .unknownSecret := by
  have hquoted : ∀ (quote : Char) (rest : List Char), quote = '"' ∨ quote = '\'' →
      parse (String.ofList ('b' :: quote :: rest)) = .error .unknownSecret := by
    intro quote rest hquote
    have hfront : ['b', quote] <+: (String.ofList ('b' :: quote :: rest)).toList := by
      rw [String.toList_ofList]
      exact ⟨rest, rfl⟩
    rcases hquote with rfl | rfl
    · exact parse_of_front hfront (by simp) (by decide) (by decide)
        ⟨_, List.mem_cons_of_mem _ List.mem_cons_self, by decide⟩
    · exact parse_of_front hfront (by simp) (by decide) (by decide)
        ⟨_, List.mem_cons_of_mem _ List.mem_cons_self, by decide⟩
  exact hquoted _ _ (Text.quoteFor_cases _)

namespace Yaml

theorem Date.beginsWithDigit_text (date : Date) : BeginsWithDigit date.text.toList := by
  simp only [Date.text, String.toList_append, List.append_assoc]
  exact (BeginsWithDigit.padded 4 date.year).append _

theorem DateTime.beginsWithDigit_text (time : DateTime) : BeginsWithDigit time.text.toList := by
  simp only [DateTime.text, String.toList_append, List.append_assoc]
  exact time.date.beginsWithDigit_text.append _

/-- The text of an atom that is no text itself is refused. -/
theorem Atom.parse_show? {a : Atom} {text : String} (hother : ∀ cs, a ≠ .text cs)
    (h : a.show? = some text) : Secret.parse text = .error .unknownSecret := by
  cases a with
  | null =>
    obtain rfl := Option.some.inj h
    rfl
  | bool b =>
    obtain rfl := Option.some.inj h
    cases b <;> rfl
  | int i =>
    rw [show?, Text.showInteger?, Option.ite_none_right_eq_some] at h
    rw [← Option.some.inj h.2]
    exact Secret.parse_toString i
  | float bits =>
    rw [← Option.some.inj h]
    exact Secret.parse_textOfBits bits
  | text cs => exact absurd rfl (hother cs)
  | octets bs =>
    rw [← Option.some.inj h]
    exact Secret.parse_quotedOctets bs
  | date d =>
    rw [← Option.some.inj h]
    exact d.beginsWithDigit_text.parse_eq
  | time t =>
    rw [← Option.some.inj h]
    exact t.beginsWithDigit_text.parse_eq

/-! ## Collections -/

namespace Value

theorem head?_enclosed {first last : String} {c : Char} (h : first.toList.head? = some c)
    (parts : List String) : (enclosed first last parts).toList.head? = some c := by
  rw [enclosed, String.toList_append, String.toList_append, List.head?_append, List.head?_append, h,
    Option.some_or, Option.some_or]

theorem parse_of_bracket {text : String} (h : text.toList.head? = some '[') :
    Secret.parse text = .error .unknownSecret :=
  Secret.parse_of_head h (by decide) (by decide) (by decide)

theorem parse_of_brace {text : String} (h : text.toList.head? = some '\x7b') :
    Secret.parse text = .error .unknownSecret :=
  Secret.parse_of_head h (by decide) (by decide) (by decide)

theorem parse_map_enclosed {parts : Option (List String)} {first last text : String} {c : Char}
    (hparts : parts.map (enclosed first last) = some text) (hfirst : first.toList.head? = some c)
    (hc : c = '[' ∨ c = '\x7b') : Secret.parse text = .error .unknownSecret := by
  obtain ⟨parts, -, rfl⟩ := Option.map_eq_some_iff.1 hparts
  have hhead : (enclosed first last parts).toList.head? = some c := head?_enclosed hfirst parts
  rcases hc with rfl | rfl
  · exact parse_of_bracket hhead
  · exact parse_of_brace hhead

/-- The text of a value that is no text itself is refused, whatever stands in the value. -/
theorem parse_text? {v : Value} {text : String} (hother : ∀ cs, v ≠ .atom (.text cs))
    (h : v.text? = some text) : Secret.parse text = .error .unknownSecret := by
  cases v with
  | atom a => exact a.parse_show? (fun cs ha => hother cs (congrArg atom ha)) h
  | list items => exact parse_map_enclosed h rfl (.inl rfl)
  | pairs items => exact parse_map_enclosed h rfl (.inl rfl)
  | map entries => exact parse_map_enclosed h rfl (.inr rfl)
  | set keys =>
    cases keys with
    | nil =>
      obtain rfl := Option.some.inj h
      rfl
    | cons k keys => exact parse_map_enclosed h rfl (.inr rfl)
  | listInside =>
    obtain rfl := Option.some.inj h
    rfl
  | mapInside =>
    obtain rfl := Option.some.inj h
    rfl

/-! ## Numbers of too many digits -/

/-- A whole number stands in a value, at any depth. -/
inductive Holds (i : Int) : Value → Prop
  | atom : Holds i (.atom (.int i))
  | item {v : Value} {items : List Value} (hv : v ∈ items) (h : Holds i v) : Holds i (.list items)
  | first {v w : Value} {items : List (Value × Value)} (hv : (v, w) ∈ items) (h : Holds i v) :
    Holds i (.pairs items)
  | second {v w : Value} {items : List (Value × Value)} (hw : (v, w) ∈ items) (h : Holds i w) :
    Holds i (.pairs items)
  | key {v : Value} {entries : List (Atom × Value)} (h : (.int i, v) ∈ entries) :
    Holds i (.map entries)
  | value {k : Atom} {v : Value} {entries : List (Atom × Value)} (hv : (k, v) ∈ entries)
    (h : Holds i v) : Holds i (.map entries)
  | member {keys : List Atom} (h : .int i ∈ keys) : Holds i (.set keys)

theorem Holds.of_entry {i : Int} {key : Atom} {v : Value} (h : Holds i (.map [(key, v)])) :
    key = .int i ∨ Holds i v := by
  cases h with
  | key hkey =>
    obtain rfl := (Prod.mk.inj (List.mem_singleton.1 hkey)).1
    exact .inl rfl
  | value hv h =>
    obtain rfl := (Prod.mk.inj (List.mem_singleton.1 hv)).2
    exact .inr h

end Value

end Yaml

/-- A whole number has more decimal digits than are shown. -/
def Text.IsLong (i : Int) : Prop :=
  Nat.pow 10 mostDigits ≤ i.natAbs

theorem Text.isSome_showInteger?_iff {i : Int} : (showInteger? i).isSome = true ↔ ¬ IsLong i := by
  rw [showInteger?, IsLong, Nat.not_le]
  split
  · next hshort => exact iff_of_true rfl hshort
  · next hlong => exact iff_of_false Bool.false_ne_true hlong

namespace Yaml

theorem Atom.isSome_show?_iff {a : Atom} :
    a.show?.isSome = true ↔ ∀ i, a = .int i → ¬ Text.IsLong i := by
  cases a with
  | int i =>
    rw [show?, Text.isSome_showInteger?_iff]
    constructor
    · rintro h j ⟨⟩
      exact h
    · exact fun h => h i rfl
  | _ => simp [show?]

namespace Value

/-- A value in which no number has too many digits can be shown. -/
theorem isShown_of_holds (v : Value) (h : ∀ i, v.Holds i → ¬ Text.IsLong i) : v.IsShown := by
  match v with
  | .atom a =>
    refine isShown_atom_iff.2 (Atom.isSome_show?_iff.2 ?_)
    rintro i rfl
    exact h i .atom
  | .list items => exact isShown_list_iff.2 fun v hv => isShown_of_holds v fun i hi => h i (.item hv hi)
  | .pairs items =>
    refine isShown_pairs_iff.2 fun p hp => ⟨?_, ?_⟩
    · exact isShown_of_holds p.1 fun i hi => h i (.first hp hi)
    · exact isShown_of_holds p.2 fun i hi => h i (.second hp hi)
  | .map entries =>
    refine isShown_map_iff.2 fun entry hentry => ⟨?_, ?_⟩
    · rw [Atom.isSome_show?_iff]
      obtain ⟨k, v⟩ := entry
      rintro i rfl
      exact h i (.key hentry)
    · exact isShown_of_holds entry.2 fun i hi => h i (.value hentry hi)
  | .set keys =>
    refine isShown_set_iff.2 fun k hk => Atom.isSome_show?_iff.2 ?_
    rintro i rfl
    exact h i (.member hk)
  | .listInside => rfl
  | .mapInside => rfl
termination_by sizeOf v
decreasing_by
  · have := List.sizeOf_lt_of_mem hv
    simp only [list.sizeOf_spec]
    omega
  · have := List.sizeOf_lt_of_mem hp
    have : sizeOf p = 1 + sizeOf p.1 + sizeOf p.2 := rfl
    simp only [pairs.sizeOf_spec]
    omega
  · have := List.sizeOf_lt_of_mem hp
    have : sizeOf p = 1 + sizeOf p.1 + sizeOf p.2 := rfl
    simp only [pairs.sizeOf_spec]
    omega
  · have := List.sizeOf_lt_of_mem hentry
    have : sizeOf entry = 1 + sizeOf entry.1 + sizeOf entry.2 := rfl
    simp only [map.sizeOf_spec]
    omega

/-- What can be shown holds no number of too many digits. -/
theorem Holds.not_isLong {i : Int} {v : Value} (h : v.Holds i) : v.IsShown → ¬ Text.IsLong i := by
  induction h with
  | atom => exact fun hv => Atom.isSome_show?_iff.1 (isShown_atom_iff.1 hv) i rfl
  | item hv _ ih => exact fun hitems => ih (isShown_list_iff.1 hitems _ hv)
  | first hv _ ih => exact fun hitems => ih (isShown_pairs_iff.1 hitems _ hv).1
  | second hw _ ih => exact fun hitems => ih (isShown_pairs_iff.1 hitems _ hw).2
  | key h => exact fun hentries => Atom.isSome_show?_iff.1 (isShown_map_iff.1 hentries _ h).1 i rfl
  | value hv _ ih => exact fun hentries => ih (isShown_map_iff.1 hentries _ hv).2
  | member h => exact fun hkeys => Atom.isSome_show?_iff.1 (isShown_set_iff.1 hkeys _ h) i rfl

/-- Only a number of too many digits keeps a value from being shown. -/
theorem isShown_iff {v : Value} : v.IsShown ↔ ∀ i, v.Holds i → ¬ Text.IsLong i :=
  ⟨fun h _ hi => hi.not_isLong h, isShown_of_holds v⟩

end Value

end Yaml

end NamedKeys
