import Mathlib.Tactic.Push
import NamedKeys.Proofs.Store.Lookup
import NamedKeys.Proofs.Store.Malformed
import NamedKeys.Proofs.Yaml.Typed

/-!
# Typed values are no secrets

The value of an entry is made a text before it is read as a secret, so that a number, a date or a whole
collection becomes a text too.  None of these texts is a secret, even where the value holds one:

    typed_entry_refused

A key that is not the word of a kind is refused for itself.  Both fail otherwise than by their format only
for a whole number of more digits than are shown.
-/

namespace NamedKeys.Store

theorem kindOf?_eq_some_iff {key : Yaml.Atom} {kind : SecretKind} :
    kindOf? key = some kind ↔ key = .text kind.word.toList := by
  constructor
  · intro h
    unfold kindOf? at h
    split at h
    · next word =>
      have hword := List.find?_some h
      rw [decide_eq_true_eq] at hword
      rw [hword, String.toList_ofList]
    · cases h
  · rintro rfl
    rw [kindOf?, String.ofList_toList, SecretKind.ofWord?_word]

theorem kindOf?_eq_none_iff {key : Yaml.Atom} :
    kindOf? key = none ↔ ∀ kind : SecretKind, key ≠ .text kind.word.toList := by
  rw [Option.eq_none_iff_forall_ne_some]
  exact forall_congr' fun kind => not_congr kindOf?_eq_some_iff

/-- An entry is a secret exactly if its key is the word of a kind and its value a text of that kind. -/
theorem secretOfValue_ok_iff {file : String} {value : Yaml.Value} {secret : Secret} :
    secretOfValue file value = .ok secret ↔
      ∃ cs, value = .map [(.text secret.kind.word.toList, .atom (.text cs))] ∧
        Secret.parse (String.ofList cs) = .ok secret := by
  constructor
  · intro h
    have hentry : ∃ key part, value = .map [(key, part)] := by
      unfold secretOfValue at h
      split at h
      · exact ⟨_, _, rfl⟩
      · cases h
    obtain ⟨key, part, rfl⟩ := hentry
    rw [secretOfValue_entry] at h
    split at h
    · split at h <;> cases h
    · next kind hkind =>
      split at h
      · cases h
      · next text htext =>
        obtain ⟨hparse, rfl⟩ := secretOfText_ok_iff.1 h
        -- no secret is read from the text of any other value
        have hpart : ∃ cs, part = .atom (.text cs) := by
          by_contra hother
          rw [Yaml.Value.parse_text? (not_exists.1 hother) htext] at hparse
          cases hparse
        obtain ⟨cs, rfl⟩ := hpart
        obtain rfl := Option.some.inj htext
        rw [kindOf?_eq_some_iff.1 hkind]
        exact ⟨cs, rfl, hparse⟩
  · rintro ⟨cs, rfl, hparse⟩
    rw [secretOfValue_entry, kindOf?_eq_some_iff.2 rfl]
    exact secretOfText_ok_iff.2 ⟨hparse, rfl⟩

section

variable {file : String} {key : Yaml.Atom} {value : Yaml.Value}

/-- A key that is not the word of a kind is told in the failure. -/
theorem secretOfValue_key (hkey : ∀ kind : SecretKind, key ≠ .text kind.word.toList) {literal : String}
    (hliteral : key.literal? = some literal) :
    secretOfValue file (.map [(key, value)]) = .error (.unknownKind literal file) := by
  rw [secretOfValue_entry, kindOf?_eq_none_iff.2 hkey, hliteral]

theorem secretOfValue_longKey {i : Int} (hlong : Text.IsLong i) :
    secretOfValue file (.map [(.int i, value)]) = .error (.value .impossible) := by
  have hliteral : (Yaml.Atom.int i).literal? = none := by
    rw [← Option.not_isSome_iff_eq_none, Yaml.Atom.isSome_literal?, Yaml.Atom.isSome_show?_iff]
    exact fun h => h i rfl hlong
  rw [secretOfValue_entry, kindOf?_eq_none_iff.2 (by rintro _ ⟨⟩), hliteral]

variable {kind : SecretKind}

/-- A value that is no text is refused as no secret, whatever stands in it. -/
theorem secretOfValue_typed (hvalue : ∀ cs, value ≠ .atom (.text cs))
    (hshort : ∀ i, value.Holds i → ¬ Text.IsLong i) :
    secretOfValue file (.map [(.text kind.word.toList, value)]) = .error .unknownSecret := by
  have hshown := Yaml.Value.isShown_iff.2 hshort
  obtain ⟨text, htext⟩ := Option.isSome_iff_exists.1 (Yaml.Value.isSome_text?_iff.2 hshown)
  rw [secretOfValue_entry, kindOf?_eq_some_iff.2 rfl, htext]
  dsimp only
  rw [secretOfText, Yaml.Value.parse_text? hvalue htext]

theorem secretOfValue_longValue {i : Int} (hi : value.Holds i) (hlong : Text.IsLong i) :
    secretOfValue file (.map [(.text kind.word.toList, value)]) = .error (.value .impossible) := by
  have htext : value.text? = none := by
    rw [← Option.not_isSome_iff_eq_none, Yaml.Value.isSome_text?_iff]
    exact fun hshown => hi.not_isLong hshown hlong
  rw [secretOfValue_entry, kindOf?_eq_some_iff.2 rfl, htext]

end

/-- Octets are read as the value of the document that they write. -/
theorem secretOfOctets_of_load {file : String} {octets : List UInt8} {text : List Char}
    {value : Yaml.Value} (htext : Text.Utf8.decode? octets = some text)
    (hload : Yaml.load (Text.unifyLineEnds text) = .ok value) :
    secretOfOctets file octets = secretOfValue file value := by
  rw [secretOfOctets, htext]
  dsimp only
  rw [hload]

/-- An entry is refused if its key is not the word of a kind, whatever type the key has, and if its value is
no text, whatever stands in the value at any depth.  All failures are of the format, but for a whole
number of more digits than are shown, as the key or anywhere in the value. -/
theorem typed_entry_refused {store : Store} {name : IdentityName} {world : World}
    {octets : List UInt8} {text : List Char} {key : Yaml.Atom} {value : Yaml.Value}
    (hfile : world.files.entryAt world.folder (store.file name) = .ok (some (.file octets)))
    (htext : Text.Utf8.decode? octets = some text)
    (hload : Yaml.load (Text.unifyLineEnds text) = .ok (.map [(key, value)])) :
    let outcome := (store.read name).runOn world
    ((∀ kind : SecretKind, key ≠ .text kind.word.toList) →
      (∀ i, key = .int i → ¬ Text.IsLong i) →
        ∃ literal, key.literal? = some literal ∧
          outcome = (.error (.unknownKind literal (store.file name).text), world)) ∧
    (∀ i, key = .int i → Text.IsLong i → outcome = (.error (.value .impossible), world)) ∧
    (∀ kind : SecretKind, key = .text kind.word.toList → (∀ cs, value ≠ .atom (.text cs)) →
      ((∀ i, value.Holds i → ¬ Text.IsLong i) → outcome = (.error .unknownSecret, world)) ∧
      ∀ i, value.Holds i → Text.IsLong i → outcome = (.error (.value .impossible), world)) ∧
    ∀ failure, outcome.1 = .error failure → failure.family = .secretFormat ∨
      failure = .value .impossible ∧ ∃ i, (key = .int i ∨ value.Holds i) ∧ Text.IsLong i := by
  intro outcome
  have houtcome : outcome = (secretOfValue (store.file name).text (.map [(key, value)]), world) := by
    rw [← secretOfOctets_of_load htext hload]
    exact runOn_read_file hfile
  rw [houtcome]
  refine ⟨?_, ?_, ?_, ?_⟩
  · intro hkey hshort
    have hshown := Yaml.Atom.isSome_show?_iff.2 hshort
    rw [← Yaml.Atom.isSome_literal?] at hshown
    obtain ⟨literal, hliteral⟩ := Option.isSome_iff_exists.1 hshown
    exact ⟨literal, hliteral, by rw [secretOfValue_key hkey hliteral]⟩
  · rintro i rfl hlong
    rw [secretOfValue_longKey hlong]
  · rintro kind rfl hvalue
    refine ⟨fun hshort => ?_, fun i hi hlong => ?_⟩
    · rw [secretOfValue_typed hvalue hshort]
    · rw [secretOfValue_longValue hi hlong]
  · intro failure hfailure
    dsimp only at hfailure
    rcases secretOfValue_error hfailure with hfamily | ⟨himpossible, hshown⟩
    · exact .inl hfamily
    · rw [Yaml.Value.isShown_iff] at hshown
      push Not at hshown
      obtain ⟨i, hi, hlong⟩ := hshown
      exact .inr ⟨himpossible, i, hi.of_entry, hlong⟩

/-- A list with one text is no entry of a keychain. -/
theorem typed_entry_refused_list :
    let content := "keychain: [a]"
    let world : World := { World.bare with
      files := ⟨[(["store"], .folder), (["store", "identity"], .folder),
        (["store", "identity", "a.yaml"], .file (Text.Utf8.encode content.toList))]⟩ }
    ((⟨⟨"", ["store"]⟩⟩ : Store).read ⟨"a", by decide⟩).runOn world =
      (.error .unknownSecret, world) := by
  intro content world
  have htext : Text.Utf8.decode? (Text.Utf8.encode content.toList) = some content.toList :=
    Text.Utf8.decode?_encode (List.all_iff_forall_prop.1 (by decide))
  have htokens : Yaml.tokens (Text.unifyLineEnds content.toList) = [.blockMappingStart, .key,
      .scalar "keychain".toList true, .value, .flowSequenceStart, .scalar ['a'] true, .flowSequenceEnd,
      .blockEnd] := by decide +kernel
  have hload : Yaml.load (Text.unifyLineEnds content.toList) =
      .ok (.map [(.text SecretKind.keychain.word.toList, .list [.atom (.text ['a'])])]) := by
    rw [Yaml.load, htokens]
    rfl
  have hfile : world.files.entryAt world.folder
      ((⟨⟨"", ["store"]⟩⟩ : Store).file ⟨"a", by decide⟩) =
      .ok (some (.file (Text.Utf8.encode content.toList))) := rfl
  obtain ⟨-, -, htyped, -⟩ := typed_entry_refused hfile htext hload
  refine (htyped .keychain rfl (by rintro _ ⟨⟩)).1 ?_
  -- no number stands in the list
  rintro i (_ | ⟨hv, hi⟩)
  obtain rfl := List.mem_singleton.1 hv
  cases hi

end NamedKeys.Store
