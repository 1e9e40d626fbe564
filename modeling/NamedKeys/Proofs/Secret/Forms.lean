import NamedKeys.Proofs.Secret

/-!
# The three forms of secrets

A text is read as a secret by the form that it has without the blanks at its ends: the name of an entry of
the program's own, the text of a secret key, or a phrase, whose words may stand apart by any blanks.  No
text has two of the forms, and only a text with none of them is refused:

    parse_by_form

Which texts have a form is said here without the tests of the reader: by what is written.
-/

namespace NamedKeys

theorem SeedPhrase.ofText_strip (text : String) : ofText (Text.strip text) = ofText text := by
  simp only [ofText, Text.squeeze_strip]

namespace Secret

/-- The name of an entry of the program's own: its service, and 1 to 250 name characters. -/
def IsOwnEntry (entry : String) : Prop :=
  ∃ name : String, IsNameBody name.toList ∧ entry = "keychain:radium226.identities-" ++ name

/-- The phrase of some entropy, in any variant of its letters. -/
def IsPhraseText (text : String) : Prop :=
  ∃ entropy, Mnemonic.Spells text entropy

/-! ## The tests of the reader -/

/-- A trimmed text does not end in a line feed, so that nothing stands after the name. -/
theorem isEntryName_iff {text : String} (htrimmed : Text.IsTrimmed text.toList) :
    isEntryName text = true ↔ IsOwnEntry text := by
  constructor
  · intro h
    rw [isEntryName, Bool.and_eq_true, List.isPrefixOf_iff_prefix] at h
    obtain ⟨⟨name, hname⟩, hform⟩ := h
    rw [← hname, length_entryPrefix, List.drop_left] at hform
    have hbody := isNameForm_iff.1 hform
    have hlast : name.getLast? ≠ some '\n' := by
      intro hlast
      have hfeed : '\n' ∈ text.toList.getLast? := by
        rw [← hname, List.getLast?_append, hlast]
        rfl
      have := htrimmed.last '\n' hfeed
      cases this
    rw [bodyOf, if_neg hlast] at hbody
    have hentry : text = entryName (String.ofList name) := by
      rw [← String.toList_inj, toList_entryName, String.toList_ofList, hname]
    exact ⟨String.ofList name, by rwa [String.toList_ofList], hentry⟩
  · rintro ⟨name, hbody, rfl⟩
    exact isEntryName_entryName hbody

theorem isSecretKey_iff {text : String} :
    KeyText.isSecretKey text = true ↔ KeyText.IsTextOf .secretKey text := by
  rw [KeyText.isSecretKey, Option.isSome_iff_exists]
  constructor
  · rintro ⟨key, hkey⟩
    exact ⟨key, KeyText.eq_encode_of_decode? hkey⟩
  · rintro ⟨key, hlength, rfl⟩
    exact ⟨key, KeyText.decode?_encode .secretKey hlength⟩

theorem isPhrase_strip_iff {text : String} :
    Mnemonic.isPhrase (Text.strip text) = true ↔ IsPhraseText (Text.squeeze text) := by
  rw [Mnemonic.isPhrase_iff, Text.squeeze_strip, IsPhraseText]

/-! ## The form of a text -/

/-- A secret is written in a text, in the form of its kind. -/
inductive IsWrittenIn (text : String) : Secret → Prop
  | keychain (h : IsOwnEntry (Text.strip text)) : IsWrittenIn text (.keychain (Text.strip text))
  | secretKey (h : KeyText.IsTextOf .secretKey (Text.strip text)) :
    IsWrittenIn text (.secretKey (Text.strip text))
  | seedPhrase (h : IsPhraseText (Text.squeeze text)) :
    IsWrittenIn text (.seedPhrase (.ofText text))

/-- A text is read as the secret that is written in it. -/
theorem parse_eq_ok_iff {text : String} {secret : Secret} :
    parse text = .ok secret ↔ IsWrittenIn text secret := by
  have htrimmed := Text.isTrimmed_strip text
  constructor
  · intro h
    rcases parse_cases h with ⟨rfl, hentry⟩ | ⟨rfl, hkey⟩ | ⟨rfl, hphrase⟩
    · exact .keychain ((isEntryName_iff htrimmed).1 hentry)
    · exact .secretKey (isSecretKey_iff.1 hkey)
    · rw [SeedPhrase.ofText_strip]
      exact .seedPhrase (isPhrase_strip_iff.1 hphrase)
  · intro h
    have hstrip : parse text = parse (Text.strip text) := by
      unfold parse
      dsimp only
      rw [Text.strip_of_isTrimmed htrimmed]
    rw [hstrip]
    cases h with
    | keychain h => exact parse_of_isEntryName htrimmed ((isEntryName_iff htrimmed).2 h)
    | secretKey h => exact parse_of_isSecretKey (isSecretKey_iff.2 h)
    | seedPhrase h =>
      rw [← SeedPhrase.ofText_strip]
      exact parse_of_isPhrase htrimmed (isPhrase_strip_iff.2 h)

/-- Only one secret is written in a text. -/
theorem IsWrittenIn.unique {text : String} {secret other : Secret} (h : IsWrittenIn text secret)
    (h' : IsWrittenIn text other) : secret = other := by
  have hparse := parse_eq_ok_iff.2 h
  rw [parse_eq_ok_iff.2 h'] at hparse
  exact (Except.ok.inj hparse).symm

theorem isWrittenIn_keychain_iff {text entry : String} :
    IsWrittenIn text (.keychain entry) ↔ Text.strip text = entry ∧ IsOwnEntry entry := by
  constructor
  · intro h
    cases h with
    | keychain h => exact ⟨rfl, h⟩
  · rintro ⟨rfl, h⟩
    exact .keychain h

theorem isWrittenIn_secretKey_iff {text key : String} :
    IsWrittenIn text (.secretKey key) ↔ Text.strip text = key ∧ KeyText.IsTextOf .secretKey key := by
  constructor
  · intro h
    cases h with
    | secretKey h => exact ⟨rfl, h⟩
  · rintro ⟨rfl, h⟩
    exact .secretKey h

theorem isWrittenIn_seedPhrase_iff {text : String} {phrase : SeedPhrase} :
    IsWrittenIn text (.seedPhrase phrase) ↔
      phrase.text = Text.squeeze text ∧ IsPhraseText phrase.text := by
  constructor
  · intro h
    cases h with
    | seedPhrase h => exact ⟨rfl, h⟩
  · obtain ⟨squeezed, hsqueezed⟩ := phrase
    rintro ⟨rfl, h⟩
    exact .seedPhrase h

/-- A text is refused if no secret is written in it. -/
theorem exists_parse_eq_error_iff {text : String} :
    (∃ failure, parse text = .error failure) ↔ ∀ secret, ¬ IsWrittenIn text secret := by
  constructor
  · rintro ⟨failure, hfailure⟩ secret hwritten
    rw [parse_eq_ok_iff.2 hwritten] at hfailure
    cases hfailure
  · intro hnone
    cases hparse : parse text with
    | error failure => exact ⟨failure, rfl⟩
    | ok secret => exact absurd (parse_eq_ok_iff.1 hparse) (hnone secret)

/-- Which texts are read as which secrets, by the form that they have; that no text has two of the forms, and
that a text with none is refused as such; and that a secret is read again from its text. -/
theorem parse_by_form :
    (∀ text entry, parse text = .ok (.keychain entry) ↔
      Text.strip text = entry ∧ IsOwnEntry entry) ∧
    (∀ text key, parse text = .ok (.secretKey key) ↔
      Text.strip text = key ∧ KeyText.IsTextOf .secretKey key) ∧
    (∀ text phrase, parse text = .ok (.seedPhrase phrase) ↔
      phrase.text = Text.squeeze text ∧ IsPhraseText phrase.text) ∧
    (∀ text, (∃ failure, parse text = .error failure ∧ failure.family = .secretFormat) ↔
      ¬ IsOwnEntry (Text.strip text) ∧ ¬ KeyText.IsTextOf .secretKey (Text.strip text) ∧
        ¬ IsPhraseText (Text.squeeze text)) ∧
    (∀ text failure, parse text = .error failure → failure.family = .secretFormat) ∧
    (∀ text, ¬ (IsOwnEntry (Text.strip text) ∧ KeyText.IsTextOf .secretKey (Text.strip text)) ∧
      ¬ (IsOwnEntry (Text.strip text) ∧ IsPhraseText (Text.squeeze text)) ∧
      ¬ (KeyText.IsTextOf .secretKey (Text.strip text) ∧ IsPhraseText (Text.squeeze text))) ∧
    ∀ text secret, parse text = .ok secret → parse secret.text = .ok secret := by
  refine ⟨fun text entry => parse_eq_ok_iff.trans isWrittenIn_keychain_iff,
    fun text key => parse_eq_ok_iff.trans isWrittenIn_secretKey_iff,
    fun text phrase => parse_eq_ok_iff.trans isWrittenIn_seedPhrase_iff, ?_,
    fun text failure => parse_error_family, ?_, fun text secret => parse_text⟩
  · intro text
    have hfamily : (∃ failure, parse text = .error failure ∧ failure.family = .secretFormat) ↔
        ∃ failure, parse text = .error failure :=
      exists_congr fun failure => and_iff_left_of_imp parse_error_family
    rw [hfamily, exists_parse_eq_error_iff]
    constructor
    · intro hnone
      exact ⟨fun h => hnone _ (.keychain h), fun h => hnone _ (.secretKey h),
        fun h => hnone _ (.seedPhrase h)⟩
    · rintro ⟨hentry, hkey, hphrase⟩ secret hwritten
      cases hwritten with
      | keychain h => exact hentry h
      | secretKey h => exact hkey h
      | seedPhrase h => exact hphrase h
  · intro text
    refine ⟨?_, ?_, ?_⟩
    · rintro ⟨hentry, hkey⟩
      have := (IsWrittenIn.keychain hentry).unique (.secretKey hkey)
      cases this
    · rintro ⟨hentry, hphrase⟩
      have := (IsWrittenIn.keychain hentry).unique (.seedPhrase hphrase)
      cases this
    · rintro ⟨hkey, hphrase⟩
      have := (IsWrittenIn.secretKey hkey).unique (.seedPhrase hphrase)
      cases this

/-- An entry between blanks, a line feed among them, is read as the entry alone, and again from its own
text. -/
theorem parse_by_form_padded :
    let entry := "keychain:radium226.identities-a"
    parse ("\u00A0" ++ entry ++ " \n") = .ok (.keychain entry) ∧
      parse (Secret.keychain entry).text = .ok (.keychain entry) := by
  intro entry
  have hentry : IsOwnEntry entry :=
    ⟨"a", ⟨by decide, by decide, List.all_eq_true.1 rfl⟩, rfl⟩
  have hparse : parse ("\u00A0" ++ entry ++ " \n") = .ok (.keychain entry) :=
    (parse_by_form.1 _ entry).2 ⟨by decide, hentry⟩
  exact ⟨hparse, parse_by_form.2.2.2.2.2.2 _ _ hparse⟩

end Secret

end NamedKeys
