import NamedKeys.Proofs.Derivation.Phrase

/-!
# The words of secret texts

The blanks of a text count for nothing but the words that they keep apart: two texts have the same joined
words exactly if they have the same words (`squeeze_eq_iff`), and with the same words they are read as one
secret or are both refused (`IsWrittenIn.of_words`).  A phrase counts in its decomposed form alone, for the
test and for the pairs of all paths (`keyPairOfPhrase_of_canonical`):

    only_words_count
-/

namespace NamedKeys

namespace Text

/-- Words joined by single spaces are told apart. -/
theorem squeeze_eq_iff {text other : String} :
    squeeze text = squeeze other ↔ words text.toList = words other.toList := by
  constructor
  · intro h
    have hwords := congrArg (fun joined : String => words joined.toList) h
    simpa only [squeeze, String.toList_ofList, words_unwords isWord_of_mem_words] using hwords
  · intro h
    rw [squeeze, squeeze, h]

theorem words_of_isWord {w : List Char} (h : IsWord w) : words w = [w] := by
  have hwords := words_append (t := []) h (by simp)
  rwa [List.append_nil] at hwords

/-- A text of one word is that word between blanks. -/
theorem words_eq_singleton_iff {cs w : List Char} : words cs = [w] ↔ trim cs = w ∧ IsWord w := by
  constructor
  · intro h
    have hword : IsWord w := isWord_of_mem_words w (h ▸ List.mem_singleton_self w)
    refine ⟨?_, hword⟩
    have htrimmed := isTrimmed_trim cs
    rw [← words_trim] at h
    generalize trim cs = trimmed at h htrimmed
    have hne : trimmed ≠ [] := by
      rintro rfl
      cases h
    rw [words_of_head hne htrimmed.head] at h
    obtain ⟨hfirst, hrest⟩ := List.cons.inj h
    -- only blanks may follow the word, and the text does not end in one
    have hend : trimmed.dropWhile (!isBlank ·) = [] := by
      by_contra hend
      have hlast := List.getLast_mem hend
      have hblank := words_eq_nil_iff.1 hrest _ hlast
      have hsuffix := List.dropWhile_suffix (fun c => !isBlank c) (l := trimmed)
      rw [htrimmed.last _ (hsuffix.getLast hend ▸ List.getLast_mem_getLast? hne)] at hblank
      cases hblank
    rw [← List.takeWhile_append_dropWhile (p := fun c => !isBlank c) (l := trimmed), hend,
      List.append_nil, hfirst]
  · rintro ⟨htrim, hword⟩
    rw [← words_trim, htrim, words_of_isWord hword]

/-- A text with the words of a single word is that word between blanks. -/
theorem strip_eq_of_words {text other : String} (h : words text.toList = words other.toList)
    (hword : IsWord (strip text).toList) : strip text = strip other := by
  have htext : words text.toList = [(strip text).toList] :=
    words_eq_singleton_iff.2 ⟨by rw [strip, String.toList_ofList], hword⟩
  obtain ⟨hother, -⟩ := words_eq_singleton_iff.1 (h.symm.trans htext)
  rw [← String.toList_inj, strip.eq_1 other, String.toList_ofList, hother]

end Text

theorem SeedPhrase.ofText_eq_iff {text other : String} :
    ofText text = ofText other ↔ Text.words text.toList = Text.words other.toList := by
  rw [← Text.squeeze_eq_iff, ofText, ofText, SeedPhrase.mk.injEq]

namespace Secret

/-- The names of entries and the texts of secret keys are single words. -/
theorem IsOwnEntry.isWord {entry : String} (h : IsOwnEntry entry) : Text.IsWord entry.toList := by
  obtain ⟨name, hname, rfl⟩ := h
  rw [String.toList_append]
  refine ⟨by simp, fun c hc => ?_⟩
  rcases List.mem_append.1 hc with hc | hc
  · exact List.all_iff_forall_prop.1 (by decide :
      ("keychain:radium226.identities-".toList.all fun c => Text.isBlank c = false) = true) c hc
  · exact isBlank_of_isNameChar (hname.chars c hc)

theorem isWord_of_isTextOf {key : String} (h : KeyText.IsTextOf .secretKey key) :
    Text.IsWord key.toList := by
  refine ⟨?_, fun c hc => isBlank_of_toNat ?_⟩
  · obtain ⟨octets, hlength, rfl⟩ := h
    exact KeyText.ne_empty_of_decode? (KeyText.decode?_encode .secretKey hlength)
  · have := (h.isDigit c hc).toNat
    omega

/-- What is written in a text is written in every text with the same words. -/
theorem IsWrittenIn.of_words {text other : String} {secret : Secret}
    (hwords : Text.words text.toList = Text.words other.toList) (h : IsWrittenIn text secret) :
    IsWrittenIn other secret := by
  cases h with
  | keychain hentry =>
    have hstrip := Text.strip_eq_of_words hwords hentry.isWord
    exact hstrip ▸ .keychain (hstrip ▸ hentry)
  | secretKey hkey =>
    have hstrip := Text.strip_eq_of_words hwords (isWord_of_isTextOf hkey)
    exact hstrip ▸ .secretKey (hstrip ▸ hkey)
  | seedPhrase hphrase =>
    rw [SeedPhrase.ofText_eq_iff.2 hwords]
    exact .seedPhrase (Text.squeeze_eq_iff.2 hwords ▸ hphrase)

/-- Texts with the same words are read as one secret, or are both refused as none. -/
theorem parse_of_words {text other : String}
    (hwords : Text.words text.toList = Text.words other.toList) :
    (∃ secret, parse text = .ok secret ∧ parse other = .ok secret) ∨
      ∃ failure failure', parse text = .error failure ∧ parse other = .error failure' ∧
        failure.family = .secretFormat ∧ failure'.family = .secretFormat := by
  cases htext : parse text with
  | ok secret =>
    exact .inl ⟨secret, rfl, parse_eq_ok_iff.2 ((parse_eq_ok_iff.1 htext).of_words hwords)⟩
  | error failure =>
    cases hother : parse other with
    | ok secret =>
      rw [parse_eq_ok_iff.2 ((parse_eq_ok_iff.1 hother).of_words hwords.symm)] at htext
      cases htext
    | error failure' =>
      exact .inr ⟨failure, failure', rfl, rfl, parse_error_family htext, parse_error_family hother⟩

end Secret

/-! ## Decomposed phrases -/

variable {phrase other : String}

/-- The test for phrases looks at the decomposed form of the joined words. -/
theorem Mnemonic.isPhrase_of_canonical
    (h : canonical (Text.squeeze phrase) = canonical (Text.squeeze other)) :
    isPhrase phrase = isPhrase other := by
  rw [isPhrase, isPhrase, entropyOf?, entropyOf?, h]

/-- And so do the pairs of all paths. -/
theorem KeyPair.ofPhrase_of_canonical (h : Mnemonic.canonical phrase = Mnemonic.canonical other)
    (index : Nat) : ofPhrase phrase index = ofPhrase other index := by
  rw [ofPhrase, ofPhrase, Mnemonic.seedOf, Mnemonic.seedOf, h]

theorem keyPairOfPhrase_of_canonical
    (h : Mnemonic.canonical (Text.squeeze phrase) = Mnemonic.canonical (Text.squeeze other))
    (path : Option Int) : keyPairOfPhrase phrase path = keyPairOfPhrase other path := by
  have hphrase : Mnemonic.isPhrase (Text.squeeze phrase) = Mnemonic.isPhrase (Text.squeeze other) := by
    rw [Mnemonic.isPhrase_squeeze, Mnemonic.isPhrase_squeeze, Mnemonic.isPhrase_of_canonical h]
  simp only [keyPairOfPhrase, hphrase, KeyPair.ofPhrase_of_canonical h]

/-- Texts with the same words are the same phrase, and only these; they pass the test for phrases together,
give the same pair or failure at every path, and are read as the same secret or are both refused as none.
Phrases whose joined words have one decomposed form pass the test together and give the same pair or failure
at every path. -/
theorem only_words_count :
    (∀ text other : String, Text.words text.toList = Text.words other.toList →
      Secret.ofText .seedPhrase text = Secret.ofText .seedPhrase other ∧
      Mnemonic.isPhrase text = Mnemonic.isPhrase other ∧
      (∀ (path : Option Int) (world : World),
        (keyPairOfPhrase text path).runOn world = (keyPairOfPhrase other path).runOn world) ∧
      ((∃ secret, Secret.parse text = .ok secret ∧ Secret.parse other = .ok secret) ∨
        ∃ failure failure', Secret.parse text = .error failure ∧
          Secret.parse other = .error failure' ∧
          failure.family = .secretFormat ∧ failure'.family = .secretFormat)) ∧
    (∀ text other : String, Secret.ofText .seedPhrase text = Secret.ofText .seedPhrase other →
      Text.words text.toList = Text.words other.toList) ∧
    ∀ phrase other : String,
      Mnemonic.canonical (Text.squeeze phrase) = Mnemonic.canonical (Text.squeeze other) →
      Mnemonic.isPhrase phrase = Mnemonic.isPhrase other ∧
      ∀ (path : Option Int) (world : World),
        (keyPairOfPhrase phrase path).runOn world = (keyPairOfPhrase other path).runOn world := by
  refine ⟨fun text other hwords => ?_, fun text other h => ?_, fun phrase other h => ?_⟩
  · have hcanonical := congrArg Mnemonic.canonical (Text.squeeze_eq_iff.2 hwords)
    refine ⟨congrArg Secret.seedPhrase (SeedPhrase.ofText_eq_iff.2 hwords),
      Mnemonic.isPhrase_of_canonical hcanonical, fun path world => ?_, Secret.parse_of_words hwords⟩
    rw [keyPairOfPhrase_of_canonical hcanonical]
  · exact SeedPhrase.ofText_eq_iff.1 (Secret.seedPhrase.inj h)
  · refine ⟨Mnemonic.isPhrase_of_canonical h, fun path world => ?_⟩
    rw [keyPairOfPhrase_of_canonical h]

/-- A phrase between odd blanks is the phrase of its words, gives its pair and is read as it. -/
theorem only_words_count_blanks :
    let spaced := "\u2003abandon  abandon\tabandon abandon abandon abandon abandon abandon
      abandon abandon abandon\u00A0about\n"
    let plain :=
      "abandon abandon abandon abandon abandon abandon abandon abandon abandon abandon abandon about"
    Secret.ofText .seedPhrase spaced = Secret.ofText .seedPhrase plain ∧
      (∃ secret, Secret.parse spaced = .ok secret ∧ Secret.parse plain = .ok secret) ∧
      ((keyPairOfPhrase spaced (some 7)).runOn .bare).1 =
        ((keyPairOfPhrase plain (some 7)).runOn .bare).1 := by
  intro spaced plain
  have hwords : Text.words spaced.toList = Text.words plain.toList := by decide +kernel
  have hphrase : Mnemonic.isPhrase spaced = true := by decide +kernel
  obtain ⟨hsame, -, -, hparse⟩ := only_words_count.1 spaced plain hwords
  refine ⟨hsame, ?_, ?_⟩
  · refine hparse.resolve_right ?_
    rintro ⟨failure, -, hfailure, -⟩
    rw [Secret.parse_eq_ok_iff.2 (.seedPhrase (Mnemonic.isPhrase_iff.1 hphrase))] at hfailure
    cases hfailure
  · have hjoined : Text.squeeze spaced = Text.squeeze plain := by decide +kernel
    rw [(only_words_count.2.2 spaced plain (by rw [hjoined])).2]

end NamedKeys
