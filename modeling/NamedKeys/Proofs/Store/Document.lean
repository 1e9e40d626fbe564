import NamedKeys.Proofs.Secret
import NamedKeys.Proofs.Yaml.Entry
import NamedKeys.Store

/-!
# A stored secret is read back

The document of a secret is loaded as one entry, from the word of its kind to its text, whatever is to be
quoted, escaped or folded in the text (`load_document`).  So its octets are read as the secret that the
text is read as, and if the text is that of the secret, as the secret:

    Secret.parse secret.text = .ok secret →
      secretOfOctets file (Utf8.encode (document secret)) = .ok secret     (secretOfOctets_document)
-/

namespace NamedKeys

theorem isKeyWord_word (kind : SecretKind) : Yaml.IsKeyWord kind.word.toList := by
  cases kind <;> exact ⟨by decide, List.all_iff_forall_prop.1 (by decide), by decide, by decide⟩

theorem SecretKind.ofWord?_word (kind : SecretKind) : ofWord? kind.word = some kind := by
  cases kind <;> decide

namespace Store

theorem isAscii_document (secret : Secret) : Text.IsAscii (document secret) := by
  intro c hc
  rcases Yaml.writeEntry_chars (isKeyWord_word secret.kind) secret.text.toList c hc with rfl | h
  · decide
  · simp only [Yaml.isPrintableAscii, Bool.and_eq_true, decide_eq_true_eq] at h
    omega

theorem unifyLineEnds_document (secret : Secret) :
    Text.unifyLineEnds (document secret) = document secret := by
  apply Text.unifyLineEnds_eq_self
  intro hreturn
  rcases Yaml.writeEntry_chars (isKeyWord_word secret.kind) secret.text.toList '\r' hreturn with h | h
  · revert h
    decide
  · revert h
    decide

/-- The document of a secret is loaded as the entry that it was written for. -/
theorem load_document (secret : Secret) :
    Yaml.load (Text.unifyLineEnds (document secret)) =
      .ok (.map [(.text secret.kind.word.toList, .atom (.text secret.text.toList))]) := by
  rw [unifyLineEnds_document]
  exact Yaml.load_writeEntry (isKeyWord_word secret.kind) secret.text.toList

/-- The kind of secrets that the key of an entry names. -/
def kindOf? : Yaml.Atom → Option SecretKind
  | .text word => SecretKind.ofWord? (String.ofList word)
  | _ => none

/-- The secret that a text is, which must be of a kind. -/
def secretOfText (file : String) (kind : SecretKind) (text : String) : Except Failure Secret :=
  match Secret.parse text with
  | .error failure => .error failure
  | .ok found =>
    if found.kind = kind then .ok found
    else .error (.kindMismatch file kind.word found.kind.word)

theorem secretOfText_ok_iff {file text : String} {kind : SecretKind} {found : Secret} :
    secretOfText file kind text = .ok found ↔ Secret.parse text = .ok found ∧ found.kind = kind := by
  unfold secretOfText
  cases Secret.parse text with
  | error failure => simp
  | ok other =>
    by_cases hkind : other.kind = kind
    · simp only [if_pos hkind, Except.ok.injEq]
      exact ⟨fun heq => ⟨heq, heq ▸ hkind⟩, And.left⟩
    · simp only [if_neg hkind, Except.ok.injEq, reduceCtorEq, false_iff, not_and]
      exact fun heq => heq ▸ hkind

theorem secretOfText_error_family {file text : String} {kind : SecretKind} {failure : Failure}
    (h : secretOfText file kind text = .error failure) : failure.family = .secretFormat := by
  unfold secretOfText at h
  split at h
  · next hparse =>
    rw [← Except.error.inj h]
    exact Secret.parse_error_family hparse
  · split at h
    · cases h
    · rw [← Except.error.inj h]
      rfl

/-- One entry is the secret that its text is, if its key names a kind and both can be shown. -/
theorem secretOfValue_entry (file : String) (key : Yaml.Atom) (value : Yaml.Value) :
    secretOfValue file (.map [(key, value)]) =
      match kindOf? key with
      | none =>
        match key.literal? with
        | some literal => .error (.unknownKind literal file)
        | none => .error (.value .impossible)
      | some kind =>
        match value.text? with
        | none => .error (.value .impossible)
        | some text => secretOfText file kind text := by
  unfold secretOfValue kindOf?
  dsimp only
  generalize key.literal? = literal, value.text? = text
  cases key with
  | text word =>
    simp only [pure_bind]
    cases SecretKind.ofWord? (String.ofList word) with
    | none => cases literal <;> rfl
    | some kind =>
      cases text with
      | none => rfl
      | some text =>
        unfold secretOfText
        dsimp only
        cases Secret.parse text with
        | error failure => rfl
        | ok found =>
          dsimp only
          by_cases hkind : found.kind = kind
          · rw [if_pos hkind]
            exact if_neg (not_not_intro hkind)
          · rw [if_neg hkind]
            exact if_pos hkind
  | _ => cases literal <;> rfl

/-- A secret that a value or octets are is read from a text. -/
theorem exists_parse_of_secretOfValue {file : String} {value : Yaml.Value} {secret : Secret}
    (h : secretOfValue file value = .ok secret) : ∃ text, Secret.parse text = .ok secret := by
  have hentry : ∃ key part, value = .map [(key, part)] := by
    unfold secretOfValue at h
    split at h
    · exact ⟨_, _, rfl⟩
    · cases h
  obtain ⟨key, part, rfl⟩ := hentry
  rw [secretOfValue_entry] at h
  split at h
  · split at h <;> cases h
  · split at h
    · cases h
    · next text _ => exact ⟨text, (secretOfText_ok_iff.1 h).1⟩

theorem exists_parse_of_secretOfOctets {file : String} {octets : List UInt8} {secret : Secret}
    (h : secretOfOctets file octets = .ok secret) : ∃ text, Secret.parse text = .ok secret := by
  unfold secretOfOctets at h
  split at h
  · cases h
  · split at h
    · exact exists_parse_of_secretOfValue h
    · cases h
    · cases h

/-- What is read from the document of a secret is what is read from its text. -/
theorem secretOfOctets_encode (file : String) (secret : Secret) :
    secretOfOctets file (Text.Utf8.encode (document secret)) =
      secretOfText file secret.kind secret.text := by
  have hkind : kindOf? (.text secret.kind.word.toList) = some secret.kind := by
    rw [kindOf?, String.ofList_toList, SecretKind.ofWord?_word]
  have htext : Yaml.Value.text? (.atom (.text secret.text.toList)) = some secret.text :=
    congrArg some String.ofList_toList
  unfold secretOfOctets
  rw [Text.Utf8.decode?_encode (isAscii_document secret)]
  simp only [load_document]
  rw [secretOfValue_entry, hkind, htext]

/-- A stored secret is read back. -/
theorem secretOfOctets_document {secret : Secret} (file : String)
    (h : Secret.parse secret.text = .ok secret) :
    secretOfOctets file (Text.Utf8.encode (document secret)) = .ok secret := by
  rw [secretOfOctets_encode]
  exact secretOfText_ok_iff.2 ⟨h, rfl⟩

end Store

end NamedKeys
