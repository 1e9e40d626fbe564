import Mathlib.Data.Bool.AllAny
import NamedKeys.Proofs.KeyText
import NamedKeys.Proofs.Mnemonic.Spelling
import NamedKeys.Secret

/-!
# Texts of secrets

A secret that a text is read as is read again from its own text:

    Secret.parse text = .ok secret → Secret.parse secret.text = .ok secret        (parse_text)

So it is for the phrases and texts of secret keys that the program makes itself, and the name of an
entry is read as the entry of the name without a final line feed (`parse_entryName`).
-/

namespace NamedKeys

/-! ## Names -/

/-- A text without the line feed at its end, if there is one. -/
def bodyOf (cs : List Char) : List Char :=
  if cs.getLast? = some '\n' then cs.dropLast else cs

/-- A text of 1 to 250 name characters. -/
structure IsNameBody (cs : List Char) : Prop where
  ne_nil : cs ≠ []
  short : cs.length ≤ 250
  chars : ∀ c ∈ cs, isNameChar c = true

theorem isNameForm_iff {cs : List Char} : isNameForm cs = true ↔ IsNameBody (bodyOf cs) := by
  simp only [isNameForm, Bool.and_eq_true, decide_eq_true_eq, List.all_eq_true]
  constructor
  · rintro ⟨⟨hpos, hshort⟩, hchars⟩
    exact ⟨List.ne_nil_of_length_pos hpos, hshort, hchars⟩
  · rintro ⟨hne, hshort, hchars⟩
    exact ⟨⟨List.length_pos_iff.2 hne, hshort⟩, hchars⟩

theorem isNameChar_toNat {c : Char} (h : isNameChar c = true) : 45 ≤ c.toNat ∧ c.toNat ≤ 122 := by
  have hranges : (((decide (c.val ≥ 65 ∧ c.val ≤ 90) || (c.val ≥ 97 && c.val ≤ 122)) ||
      (c.val ≥ 48 && c.val ≤ 57)) || c = '-' || c = '_') = true := h
  simp only [Bool.or_eq_true, Bool.and_eq_true, decide_eq_true_eq] at hranges
  rcases hranges with ((((h | h) | h) | rfl) | rfl)
  · have h1 : 65 ≤ c.toNat := UInt32.le_iff_toNat_le.1 h.1
    have h2 : c.toNat ≤ 90 := UInt32.le_iff_toNat_le.1 h.2
    omega
  · have h1 : 97 ≤ c.toNat := UInt32.le_iff_toNat_le.1 h.1
    have h2 : c.toNat ≤ 122 := UInt32.le_iff_toNat_le.1 h.2
    omega
  · have h1 : 48 ≤ c.toNat := UInt32.le_iff_toNat_le.1 h.1
    have h2 : c.toNat ≤ 57 := UInt32.le_iff_toNat_le.1 h.2
    omega
  · decide
  · decide

theorem isBlank_of_toNat {c : Char} (h : 33 ≤ c.toNat ∧ c.toNat ≤ 126) : Text.isBlank c = false := by
  simp only [Text.isBlank, Bool.or_eq_false_iff, Bool.and_eq_false_iff, decide_eq_false_iff_not,
    beq_eq_false_iff_ne]
  omega

theorem isBlank_of_isNameChar {c : Char} (h : isNameChar c = true) : Text.isBlank c = false := by
  have := isNameChar_toNat h
  exact isBlank_of_toNat (by omega)

theorem ne_of_isNameChar {c d : Char} (h : isNameChar c = true) (hd : isNameChar d = false) :
    c ≠ d := by
  rintro rfl
  rw [h] at hd
  cases hd

theorem IsNameBody.getLast? {cs : List Char} (h : IsNameBody cs) : cs.getLast? ≠ some '\n' :=
  fun hlast => ne_of_isNameChar (h.chars '\n' (List.mem_of_getLast? hlast)) rfl rfl

theorem IsNameBody.bodyOf_eq {cs : List Char} (h : IsNameBody cs) : bodyOf cs = cs :=
  if_neg h.getLast?

/-- A text is its body, or its body and a line feed. -/
theorem bodyOf_cases (cs : List Char) : cs = bodyOf cs ∨ cs = bodyOf cs ++ ['\n'] := by
  unfold bodyOf
  split
  · next h =>
    right
    obtain ⟨front, rfl⟩ := List.getLast?_eq_some_iff.1 h
    rw [List.dropLast_concat]
  · exact .inl rfl

/-! ## Secrets that are read again -/

namespace Secret

/-- A phrase does not begin with the mark of keychain secrets, which has a colon. -/
theorem not_isPrefix_of_isPhrase {text : String} (h : Mnemonic.isPhrase text = true) :
    ¬ keychainMark.toList <+: text.toList := by
  intro hfront
  have hword : Text.IsWord keychainMark.toList := ⟨by decide, List.all_iff_forall_prop.1 (by decide)⟩
  have hascii : Text.IsAscii keychainMark.toList := List.all_iff_forall_prop.1 (by decide)
  have hcolon := Mnemonic.small_of_isPhrase h hword hascii hfront ':' (by decide)
  revert hcolon
  decide

/-- A phrase is no text of a secret key, in which all letters are capital. -/
theorem isSecretKey_of_isPhrase {text : String} (h : Mnemonic.isPhrase text = true) :
    KeyText.isSecretKey text = false := by
  by_contra hkey
  rw [Bool.not_eq_false, KeyText.isSecretKey, Option.isSome_iff_exists] at hkey
  obtain ⟨key, hkey⟩ := hkey
  have hdigits := KeyText.isDigit_of_decode? hkey
  have hword : Text.IsWord text.toList := by
    refine ⟨KeyText.ne_empty_of_decode? hkey, fun c hc => isBlank_of_toNat ?_⟩
    have := (hdigits c hc).toNat
    omega
  have hascii : Text.IsAscii text.toList := by
    intro c hc
    have := (hdigits c hc).toNat
    omega
  obtain ⟨c, cs, hcs⟩ := List.exists_cons_of_ne_nil hword.1
  have hc : c ∈ text.toList := by
    rw [hcs]
    exact List.mem_cons_self
  have hdigit := (hdigits c hc).toNat
  have hsmall : 97 ≤ c.toNat :=
    UInt32.le_iff_toNat_le.1 (Mnemonic.small_of_isPhrase h hword hascii List.prefix_rfl c hc).1
  omega

theorem parse_of_isEntryName {text : String} (htrimmed : Text.IsTrimmed text.toList)
    (h : isEntryName text = true) : parse text = .ok (.keychain text) := by
  have hmark : keychainMark.toList.isPrefixOf text.toList = true := by
    rw [isEntryName, Bool.and_eq_true, List.isPrefixOf_iff_prefix] at h
    rw [List.isPrefixOf_iff_prefix]
    exact List.IsPrefix.trans (by decide) h.1
  unfold parse
  dsimp only
  rw [Text.strip_of_isTrimmed htrimmed, if_pos hmark, if_pos h]

theorem parse_of_isSecretKey {text : String} (h : KeyText.isSecretKey text = true) :
    parse text = .ok (.secretKey text) := by
  obtain ⟨key, hkey⟩ := Option.isSome_iff_exists.1 h
  have hdigits := KeyText.isDigit_of_decode? hkey
  have htrimmed : Text.IsTrimmed text.toList := by
    refine Text.isTrimmed_of_no_blank fun c hc => isBlank_of_toNat ?_
    have := (hdigits c hc).toNat
    omega
  -- the mark begins with a small letter, which is no digit
  have hmark : ¬ keychainMark.toList.isPrefixOf text.toList = true := by
    intro hmark
    rw [List.isPrefixOf_iff_prefix] at hmark
    have := (hdigits 'k' (hmark.subset (by decide))).toNat
    revert this
    decide
  unfold parse
  dsimp only
  rw [Text.strip_of_isTrimmed htrimmed, if_neg hmark, if_pos h]

theorem parse_of_isPhrase {text : String} (htrimmed : Text.IsTrimmed text.toList)
    (h : Mnemonic.isPhrase text = true) : parse text = .ok (.seedPhrase (.ofText text)) := by
  unfold parse
  dsimp only
  rw [Text.strip_of_isTrimmed htrimmed,
    if_neg (by rw [List.isPrefixOf_iff_prefix]; exact not_isPrefix_of_isPhrase h),
    if_neg (by simp [isSecretKey_of_isPhrase h]), if_pos h]

/-- What a text is read as is one of three. -/
theorem parse_cases {text : String} {secret : Secret} (h : parse text = .ok secret) :
    (secret = .keychain (Text.strip text) ∧ isEntryName (Text.strip text) = true) ∨
    (secret = .secretKey (Text.strip text) ∧ KeyText.isSecretKey (Text.strip text) = true) ∨
    (secret = .seedPhrase (.ofText (Text.strip text)) ∧
      Mnemonic.isPhrase (Text.strip text) = true) := by
  unfold parse at h
  dsimp only at h
  split at h
  · split at h
    · next hentry => exact .inl ⟨(Except.ok.inj h).symm, hentry⟩
    · cases h
  · split at h
    · next hkey => exact .inr (.inl ⟨(Except.ok.inj h).symm, hkey⟩)
    · split at h
      · next hphrase => exact .inr (.inr ⟨(Except.ok.inj h).symm, hphrase⟩)
      · cases h

/-- A text that is no secret is reported as none. -/
theorem parse_error_family {text : String} {failure : Failure} (h : parse text = .error failure) :
    failure.family = .secretFormat := by
  unfold parse at h
  dsimp only at h
  split at h
  · split at h
    · cases h
    · rw [← Except.error.inj h]
      rfl
  · split at h
    · cases h
    · split at h
      · cases h
      · rw [← Except.error.inj h]
        rfl

theorem isSecretKey_of_parse {text key : String} (h : parse text = .ok (.secretKey key)) :
    KeyText.isSecretKey key = true := by
  rcases parse_cases h with ⟨heq, -⟩ | ⟨heq, hkey⟩ | ⟨heq, -⟩
  · cases heq
  · rwa [secretKey.inj heq]
  · cases heq

theorem isPhrase_of_parse {text : String} {phrase : SeedPhrase}
    (h : parse text = .ok (.seedPhrase phrase)) : Mnemonic.isPhrase phrase.text = true := by
  rcases parse_cases h with ⟨heq, -⟩ | ⟨heq, -⟩ | ⟨heq, hphrase⟩
  · cases heq
  · cases heq
  · rw [seedPhrase.inj heq, SeedPhrase.ofText, Mnemonic.isPhrase_squeeze, hphrase]

/-- A secret that a text is read as is read again from its own text. -/
theorem parse_text {text : String} {secret : Secret} (h : parse text = .ok secret) :
    parse secret.text = .ok secret := by
  have htrimmed := Text.isTrimmed_strip text
  rcases parse_cases h with ⟨rfl, hentry⟩ | ⟨rfl, hkey⟩ | ⟨rfl, hphrase⟩
  · exact parse_of_isEntryName htrimmed hentry
  · exact parse_of_isSecretKey hkey
  · generalize Text.strip text = stripped at hphrase
    have hphrase' : Mnemonic.isPhrase (Text.squeeze stripped) = true := by
      rw [Mnemonic.isPhrase_squeeze, hphrase]
    have hread := parse_of_isPhrase (Text.isTrimmed_squeeze stripped) hphrase'
    have hphraseEq : SeedPhrase.ofText (Text.squeeze stripped) = SeedPhrase.ofText stripped := by
      simp only [SeedPhrase.ofText, Text.squeeze_squeeze]
    rw [hphraseEq] at hread
    exact hread

/-! ## Secrets of the program -/

/-- The phrase of entropy is read as a phrase. -/
theorem parse_phraseOfEntropy {entropy : List UInt8}
    (h : Mnemonic.entropyLengths.contains entropy.length = true) :
    parse (Mnemonic.phraseOfEntropy entropy) =
      .ok (.seedPhrase (.ofText (Mnemonic.phraseOfEntropy entropy))) := by
  have htrimmed : Text.IsTrimmed (Mnemonic.phraseOfEntropy entropy).toList := by
    rw [← Mnemonic.squeeze_phraseOfEntropy]
    exact Text.isTrimmed_squeeze _
  exact parse_of_isPhrase htrimmed (Mnemonic.isPhrase_phraseOfEntropy h)

/-- The text of a key is read as a secret key. -/
theorem parse_encode {key : List UInt8} (h : key.length = 32) :
    parse (KeyText.encode .secretKey key) = .ok (.secretKey (KeyText.encode .secretKey key)) := by
  apply parse_of_isSecretKey
  rw [KeyText.isSecretKey, KeyText.decode?_encode .secretKey h]
  rfl

theorem toList_entryName (name : String) :
    (entryName name).toList = Failure.entryPrefix.toList ++ name.toList := by
  rw [entryName, String.toList_append]

theorem length_entryPrefix : Failure.entryPrefix.length = Failure.entryPrefix.toList.length := by
  rw [String.length_toList]

theorem isEntryName_entryName {name : String} (h : IsNameBody name.toList) :
    isEntryName (entryName name) = true := by
  rw [isEntryName, Bool.and_eq_true, toList_entryName, length_entryPrefix, List.drop_left,
    List.isPrefixOf_iff_prefix, isNameForm_iff, h.bodyOf_eq]
  exact ⟨List.prefix_append _ _, h⟩

theorem isTrimmed_entryName {name : String} (h : IsNameBody name.toList) :
    Text.IsTrimmed (entryName name).toList := by
  apply Text.isTrimmed_of_no_blank
  intro c hc
  rw [toList_entryName, List.mem_append] at hc
  rcases hc with hc | hc
  · have hfront : ∀ c ∈ Failure.entryPrefix.toList, Text.isBlank c = false :=
      List.all_iff_forall_prop.1 (by decide)
    exact hfront c hc
  · exact isBlank_of_isNameChar (h.chars c hc)

/-- A line feed at the end of a name is lost in the name of its entry. -/
theorem strip_entryName {name : String} (h : isNameForm name.toList = true) :
    Text.strip (entryName name) = entryName (String.ofList (bodyOf name.toList)) := by
  have hbody := isNameForm_iff.1 h
  have htrimmed : Text.IsTrimmed (entryName (String.ofList (bodyOf name.toList))).toList :=
    isTrimmed_entryName (by rwa [String.toList_ofList])
  rcases bodyOf_cases name.toList with hname | hname
  · rw [← hname, String.ofList_toList] at htrimmed ⊢
    exact Text.strip_of_isTrimmed htrimmed
  · have hlist : (entryName name).toList =
        (entryName (String.ofList (bodyOf name.toList))).toList ++ ['\n'] := by
      rw [toList_entryName, toList_entryName, String.toList_ofList, List.append_assoc, ← hname]
    rw [Text.strip, hlist, Text.trim_append_blank htrimmed rfl, Text.trim_eq_self htrimmed, String.ofList_toList]

/-- The name of the entry of an identity is read as the entry of the name without the line feed that
may end it. -/
theorem parse_entryName {name : String} (h : isNameForm name.toList = true) :
    parse (entryName name) = .ok (.keychain (entryName (String.ofList (bodyOf name.toList)))) := by
  have hbody : IsNameBody (String.ofList (bodyOf name.toList)).toList := by
    rw [String.toList_ofList]
    exact isNameForm_iff.1 h
  have hread := parse_of_isEntryName (isTrimmed_entryName hbody) (isEntryName_entryName hbody)
  rw [← hread, ← strip_entryName h]
  unfold parse
  dsimp only
  rw [Text.strip_of_isTrimmed (Text.isTrimmed_strip _)]

end Secret

end NamedKeys
