import NamedKeys.Proofs.Store.Document
import NamedKeys.Proofs.Store.Lookup
import NamedKeys.Proofs.Yaml.Shown

/-!
# Octets that are no secret

A file in the place of an identity may hold any octets.  If they are not read as a secret, then the failure
says that they have not the format of one, but for two flaws that it leaves as they are:

    notText        the octets are no text
    value fault    the text has a token that is not sound: a tag, a number or a code point out of range,
                   or a plain scalar with the form of a value that cannot be built

There is no other failure (`secretOfOctets_error`).
-/

namespace NamedKeys.Store

/-- Why octets are not read as a secret. -/
inductive Flaw (octets : List UInt8) : Failure → Prop where
  | format {failure : Failure} (hfamily : failure.family = .secretFormat) : Flaw octets failure
  | text (hnone : Text.Utf8.decode? octets = none) : Flaw octets .notText
  | value {text : List Char} {token : Yaml.Token} (htext : Text.Utf8.decode? octets = some text)
      (htoken : token ∈ Yaml.tokens (Text.unifyLineEnds text)) (hunsound : token.isSound = false)
      (fault : ValueFault) : Flaw octets (.value fault)

/-- A value that is no secret has not the format of one, or cannot be shown. -/
theorem secretOfValue_error {file : String} {value : Yaml.Value} {failure : Failure}
    (h : secretOfValue file value = .error failure) :
    failure.family = .secretFormat ∨ failure = .value .impossible ∧ ¬ value.IsShown := by
  have hentry : (∃ key part, value = .map [(key, part)]) ∨
      secretOfValue file value = .error (.notOneSecret file) := by
    unfold secretOfValue
    split
    · exact .inl ⟨_, _, rfl⟩
    · exact .inr rfl
  rcases hentry with ⟨key, part, rfl⟩ | hother
  · rw [secretOfValue_entry] at h
    have hshown : (Yaml.Value.map [(key, part)]).IsShown →
        key.literal? ≠ none ∧ part.text? ≠ none := by
      intro hshown
      obtain ⟨hkey, hpart⟩ := Yaml.Value.isShown_map_iff.1 hshown _ List.mem_cons_self
      rw [← Yaml.Atom.isSome_literal?] at hkey
      exact ⟨Option.isSome_iff_ne_none.1 hkey,
        Option.isSome_iff_ne_none.1 (Yaml.Value.isSome_text?_iff.2 hpart)⟩
    split at h
    · split at h
      · rw [← Except.error.inj h]
        exact .inl rfl
      · next hliteral =>
        exact .inr ⟨(Except.error.inj h).symm, fun hvalue => (hshown hvalue).1 hliteral⟩
    · split at h
      · next htext => exact .inr ⟨(Except.error.inj h).symm, fun hvalue => (hshown hvalue).2 htext⟩
      · exact .inl (secretOfText_error_family h)
  · rw [hother] at h
    rw [← Except.error.inj h]
    exact .inl rfl

/-- A value that cannot be built is the failure. -/
theorem secretOfOctets_of_fault {file : String} {octets : List UInt8} {text : List Char}
    {fault : ValueFault} (htext : Text.Utf8.decode? octets = some text)
    (hload : Yaml.load (Text.unifyLineEnds text) = .error (.value fault)) :
    secretOfOctets file octets = .error (.value fault) := by
  rw [secretOfOctets, htext]
  dsimp only
  rw [hload]

/-- Octets that are not read as a secret have a flaw that the failure tells. -/
theorem secretOfOctets_error {file : String} {octets : List UInt8} {failure : Failure}
    (h : secretOfOctets file octets = .error failure) : Flaw octets failure := by
  unfold secretOfOctets at h
  cases htext : Text.Utf8.decode? octets with
  | none =>
    rw [htext] at h
    rw [← Except.error.inj h]
    exact .text htext
  | some text =>
    rw [htext] at h
    dsimp only at h
    -- a fault of a value is not possible where all tokens are sound
    have hvalue : ∀ fault, ¬ Yaml.Yields Yaml.Value.IsShown (Yaml.load (Text.unifyLineEnds text)) →
        Flaw octets (.value fault) := by
      intro fault hload
      have hunsound := Bool.eq_false_iff.2 (mt Yaml.load_sound hload)
      obtain ⟨token, htoken, htokens⟩ := List.all_eq_false.1 hunsound
      exact .value htext htoken (Bool.eq_false_iff.2 htokens) fault
    cases hload : Yaml.load (Text.unifyLineEnds text) with
    | ok value =>
      rw [hload] at h hvalue
      rcases secretOfValue_error h with hfamily | ⟨rfl, hshown⟩
      · exact .format hfamily
      · exact hvalue _ hshown
    | error fault =>
      rw [hload] at h hvalue
      cases fault with
      | malformed =>
        rw [← Except.error.inj h]
        exact .format rfl
      | value fault =>
        rw [← Except.error.inj h]
        exact hvalue fault (by rintro ⟨⟩)

end NamedKeys.Store
