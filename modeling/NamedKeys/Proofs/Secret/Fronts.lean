import NamedKeys.Proofs.Secret

/-!
# How the texts of secrets begin

The name of an entry begins with `k`, the text of a secret key with `S`, and a phrase is of small letters.
So a text that begins otherwise, with signs that are no blanks, is refused, whatever follows:

    parse_of_front
-/

namespace NamedKeys

namespace Text

/-- What stands without blanks at the beginning of a text stays there when the text is trimmed. -/
theorem isPrefix_trim {front cs : List Char} (hword : IsWord front) (h : front <+: cs) :
    front <+: trim cs := by
  obtain ⟨rest, rfl⟩ := h
  have hhead : ∀ c ∈ (front ++ rest).head?, isBlank c = false := by
    obtain ⟨c, front, rfl⟩ := List.exists_cons_of_ne_nil hword.1
    rintro d ⟨⟩
    exact hword.2 c List.mem_cons_self
  have hback : ∀ c ∈ front.reverse.head?, isBlank c = false :=
    fun c hc => hword.2 c (List.mem_reverse.1 (List.mem_of_mem_head? hc))
  rw [trim, dropWhile_eq_self hhead, List.reverse_append, List.dropWhile_append]
  split
  · have hfront : (front.reverse.dropWhile isBlank).reverse = front := by
      rw [dropWhile_eq_self hback, List.reverse_reverse]
    exact hfront.symm ▸ List.prefix_rfl
  · rw [List.reverse_append, List.reverse_reverse]
    exact List.prefix_append _ _

end Text

namespace KeyText

/-- The text of a secret key begins with `S`: the first five bits of its octet are 18. -/
theorem head?_encode_secretKey (key : List UInt8) :
    (encode .secretKey key).toList.head? = some 'S' := by
  rw [encode, String.toList_ofList]
  rfl

end KeyText

namespace Secret

/-- A text that begins with signs as no secret does is refused. -/
theorem parse_of_front {text : String} {first : Char} {rest : List Char}
    (h : first :: rest <+: text.toList) (hsigns : ∀ c ∈ first :: rest, 33 ≤ c.toNat ∧ c.toNat ≤ 126)
    (hentry : first ≠ 'k') (hkey : first ≠ 'S')
    (hphrase : ∃ c ∈ first :: rest, ¬ ('a' ≤ c ∧ c ≤ 'z')) : parse text = .error .unknownSecret := by
  have hword : Text.IsWord (first :: rest) :=
    ⟨List.cons_ne_nil _ _, fun c hc => isBlank_of_toNat (hsigns c hc)⟩
  have hascii : Text.IsAscii (first :: rest) := by
    intro c hc
    have := (hsigns c hc).2
    omega
  have hstrip : first :: rest <+: (Text.strip text).toList := by
    rw [Text.strip, String.toList_ofList]
    exact Text.isPrefix_trim hword h
  have hhead : (Text.strip text).toList.head? = some first := by
    obtain ⟨tail, htail⟩ := hstrip
    rw [← htail]
    rfl
  have hmark : ¬ keychainMark.toList.isPrefixOf (Text.strip text).toList = true := by
    rw [List.isPrefixOf_iff_prefix]
    rintro ⟨tail, htail⟩
    rw [← htail] at hhead
    exact hentry (Option.some.inj hhead).symm
  have hsecretKey : ¬ KeyText.isSecretKey (Text.strip text) = true := by
    intro hread
    obtain ⟨key, hkeyText⟩ := Option.isSome_iff_exists.1 hread
    obtain ⟨-, hencode⟩ := KeyText.eq_encode_of_decode? hkeyText
    rw [← hencode, KeyText.head?_encode_secretKey] at hhead
    exact hkey (Option.some.inj hhead).symm
  have hnoPhrase : ¬ Mnemonic.isPhrase (Text.strip text) = true := by
    intro hread
    obtain ⟨c, hc, hletter⟩ := hphrase
    exact hletter (Mnemonic.small_of_isPhrase hread hword hascii hstrip c hc)
  unfold parse
  dsimp only
  rw [if_neg hmark, if_neg hsecretKey, if_neg hnoPhrase]

end Secret

end NamedKeys
