import NamedKeys.KeyPair
import NamedKeys.Proofs.KeyText.Parts

/-!
# Key pairs are read back

A pair is the pair of a secret key, and has two forms in which it is read back: the text of the secret key
and the 64 octets of both keys.  From each form only its own spelling is read, and everything else is
refused as no pair:

    key_texts_one_to_one
    stored_octets_decoded_exactly
-/

namespace NamedKeys.KeyPair

theorem ofSecretKey?_eq_ok_iff {key : List UInt8} {pair : KeyPair} :
    ofSecretKey? key = .ok pair ↔ key.length = 32 ∧ pair = ofSecretKey key := by
  unfold ofSecretKey?
  constructor
  · intro h
    split at h
    · next hlength => exact ⟨hlength, (Except.ok.inj h).symm⟩
    · cases h
  · rintro ⟨hlength, rfl⟩
    exact if_pos hlength

/-! ## Texts -/

theorem ofKeyText_eq_ok_iff {text : String} {pair : KeyPair} :
    ofKeyText text = .ok pair ↔
      ∃ key, KeyText.decode? .secretKey text = some key ∧ pair = ofSecretKey key := by
  unfold ofKeyText
  constructor
  · intro h
    split at h
    · next key hkey => exact ⟨key, hkey, (Except.ok.inj h).symm⟩
    · cases h
  · rintro ⟨key, hkey, rfl⟩
    rw [hkey]

/-- A pair is read from a text that has the parts of a text of its secret key. -/
theorem ofKeyText_eq_ok_iff_parts {text : String} {pair : KeyPair} :
    ofKeyText text = .ok pair ↔
      ∃ key, KeyText.parts? text = some (KeyText.Kind.secretKey.octet, key) ∧
        ofSecretKey? key = .ok pair := by
  rw [ofKeyText_eq_ok_iff]
  refine exists_congr fun key => ?_
  rw [KeyText.decode?_eq_some_iff, ofSecretKey?_eq_ok_iff, and_assoc]

/-- The text of the secret key of a pair gives the pair. -/
theorem ofKeyText_secret {key : List UInt8} (h : key.length = 32) :
    ofKeyText (ofSecretKey key).secret = .ok (ofSecretKey key) :=
  ofKeyText_eq_ok_iff.2 ⟨key, KeyText.decode?_encode .secretKey h, rfl⟩

theorem ofKeyText_ok {text : String} {pair : KeyPair} (h : ofKeyText text = .ok pair) :
    ∃ key, key.length = 32 ∧ pair = .ofSecretKey key := by
  obtain ⟨key, hkey, hpair⟩ := ofKeyText_eq_ok_iff.1 h
  exact ⟨key, (KeyText.eq_encode_of_decode? hkey).1, hpair⟩

/-- A text from which a pair is read is the text of its secret key. -/
theorem secret_of_ofKeyText {text : String} {pair : KeyPair} (h : ofKeyText text = .ok pair) :
    pair.secret = text := by
  obtain ⟨key, hkey, rfl⟩ := ofKeyText_eq_ok_iff.1 h
  exact (KeyText.eq_encode_of_decode? hkey).2

/-- What is read from a text always has the length of a secret key. -/
theorem ofSecretKey?_of_decode? {text : String} {key : List UInt8}
    (h : KeyText.decode? .secretKey text = some key) : ofSecretKey? key = ofKeyText text := by
  rw [ofKeyText, h]
  exact if_pos (KeyText.eq_encode_of_decode? h).1

theorem ofKeyText_error {text : String} {failure : Failure} (h : ofKeyText text = .error failure) :
    failure = .invalidSecretKey text := by
  unfold ofKeyText at h
  split at h
  · cases h
  · exact (Except.error.inj h).symm

/-- Secret keys of 32 octets and the texts from which a pair is read correspond one to one.  All other texts
are refused as no secret keys, those with a right check sum and another octet in front or another number of
octets among them; and the key that is read from a text is never refused. -/
theorem key_texts_one_to_one :
    (∀ key : List UInt8, key.length = 32 →
      ∃ pair, ofSecretKey? key = .ok pair ∧ ofKeyText pair.secret = .ok pair) ∧
    (∀ (text : String) (pair : KeyPair), ofKeyText text = .ok pair →
      pair.secret = text ∧ ofSecretKey? pair.secretKey = .ok pair) ∧
    (∀ (text other : String) (pair pair' : KeyPair), ofKeyText text = .ok pair →
      ofKeyText other = .ok pair' → pair.secretKey = pair'.secretKey → text = other) ∧
    (∀ (text : String) (failure : Failure), ofKeyText text = .error failure →
      failure.family = .derivation) ∧
    (∀ (text : String) (key : List UInt8), KeyText.decode? .secretKey text = some key →
      ofSecretKey? key = ofKeyText text) ∧
    (∀ (text : String) (pair : KeyPair), ofKeyText text = .ok pair ↔
      ∃ key, KeyText.parts? text = some (KeyText.Kind.secretKey.octet, key) ∧
        ofSecretKey? key = .ok pair) ∧
    ∀ (octet : UInt8) (payload : List UInt8),
      (∃ pair, ofKeyText (KeyText.withChecksum octet payload) = .ok pair) ↔
        octet = KeyText.Kind.secretKey.octet ∧ payload.length = 32 := by
  refine ⟨fun key hlength => ?_, fun text pair h => ⟨secret_of_ofKeyText h, ?_⟩,
    fun text other pair pair' h h' hkeys => ?_, fun text failure h => ?_,
    fun text key => ofSecretKey?_of_decode?, fun text pair => ofKeyText_eq_ok_iff_parts,
    fun octet payload => ?_⟩
  · exact ⟨_, ofSecretKey?_eq_ok_iff.2 ⟨hlength, rfl⟩, ofKeyText_secret hlength⟩
  · obtain ⟨key, hlength, rfl⟩ := ofKeyText_ok h
    exact ofSecretKey?_eq_ok_iff.2 ⟨hlength, rfl⟩
  · rw [← secret_of_ofKeyText h, ← secret_of_ofKeyText h', secret, secret, hkeys]
  · rw [ofKeyText_error h]
    rfl
  · have hwritten : KeyText.parts? (KeyText.withChecksum octet payload) = some (octet, payload) :=
      KeyText.parts?_eq_some_iff.2 rfl
    simp only [ofKeyText_eq_ok_iff_parts, hwritten]
    constructor
    · rintro ⟨pair, key, hkey, hpair⟩
      obtain ⟨rfl, rfl⟩ := Prod.mk.inj (Option.some.inj hkey)
      exact ⟨rfl, (ofSecretKey?_eq_ok_iff.1 hpair).1⟩
    · rintro ⟨rfl, hlength⟩
      exact ⟨_, payload, rfl, ofSecretKey?_eq_ok_iff.2 ⟨hlength, rfl⟩⟩

/-- The text of a key; with a right check sum, but the octet of public keys or one octet more, it would be
refused. -/
theorem key_texts_one_to_one_low :
    let key : List UInt8 := 1 :: List.replicate 31 0
    let text := "SAAQAAAAAAAAAAAAAAAAAAAAAAAAAAAAAAAAAAAAAAAAAAAAAAAABDGD"
    (∃ pair, ofSecretKey? key = .ok pair ∧ ofKeyText text = .ok pair ∧ pair.secret = text) ∧
      (¬ ∃ pair, ofKeyText (KeyText.withChecksum 48 key) = .ok pair) ∧
      ¬ ∃ pair, ofKeyText (KeyText.withChecksum 144 (0 :: key)) = .ok pair := by
  intro key text
  obtain ⟨hread, htext, -, -, -, -, hchecksum⟩ := key_texts_one_to_one
  obtain ⟨pair, hpair, hsecret⟩ := hread key rfl
  obtain rfl : pair = ofSecretKey key := (ofSecretKey?_eq_ok_iff.1 hpair).2
  have hwritten : (ofSecretKey key).secret = text := by decide +kernel
  rw [hwritten] at hsecret
  refine ⟨⟨_, hpair, hsecret, (htext text _ hsecret).1⟩, ?_, ?_⟩
  · rw [hchecksum]
    decide
  · rw [hchecksum]
    decide

/-! ## Octets -/

/-- A pair is read from its own octets alone. -/
theorem ofOctets_eq_ok_iff {octets : List UInt8} {pair : KeyPair} :
    ofOctets octets = .ok pair ↔
      octets.length = 64 ∧ octets.drop 32 = Curve.Ed25519.publicKey (octets.take 32) ∧
        pair = ofSecretKey (octets.take 32) := by
  unfold ofOctets
  constructor
  · intro h
    split at h
    · cases h
    · next hlength =>
      dsimp only at h
      split at h
      · next hpublic => exact ⟨not_not.1 hlength, hpublic.symm, (Except.ok.inj h).symm⟩
      · cases h
  · rintro ⟨hlength, hpublic, rfl⟩
    rw [if_neg (not_not.2 hlength), hpublic]
    exact if_pos rfl

theorem ofOctets_ok {octets : List UInt8} {pair : KeyPair} (h : ofOctets octets = .ok pair) :
    ∃ key, key.length = 32 ∧ pair = .ofSecretKey key := by
  obtain ⟨hlength, -, hpair⟩ := ofOctets_eq_ok_iff.1 h
  exact ⟨octets.take 32, by rw [List.length_take, hlength]; rfl, hpair⟩

/-- The octets in which a pair is stored are those of one pair. -/
theorem ofOctets_octets {key : List UInt8} (h : key.length = 32) :
    ofOctets (ofSecretKey key).octets = .ok (ofSecretKey key) := by
  have hlength : (ofSecretKey key).octets.length = 64 := by
    rw [octets, List.length_append, ofSecretKey, h, Curve.Ed25519.length_publicKey]
  have htake : (ofSecretKey key).octets.take 32 = key := List.take_left' h
  have hdrop : (ofSecretKey key).octets.drop 32 = (ofSecretKey key).publicKey := List.drop_left' h
  rw [ofOctets_eq_ok_iff, htake, hdrop]
  exact ⟨hlength, rfl, rfl⟩

/-- The octets from which a pair is read are those in which it is stored. -/
theorem octets_of_ofOctets {octets : List UInt8} {pair : KeyPair} (h : ofOctets octets = .ok pair) :
    pair.octets = octets := by
  obtain ⟨-, hpublic, rfl⟩ := ofOctets_eq_ok_iff.1 h
  rw [KeyPair.octets, ofSecretKey, ← hpublic, List.take_append_drop]

theorem ofOctets_error {octets : List UInt8} {failure : Failure}
    (h : ofOctets octets = .error failure) :
    failure = .keyPairLength octets.length ∨ failure = .keyPairMismatch := by
  unfold ofOctets at h
  split at h
  · exact .inl (Except.error.inj h).symm
  · dsimp only at h
    split at h
    · cases h
    · exact .inr (Except.error.inj h).symm

/-- A pair is read from octets exactly if there are 64 of them and the last 32 are the public key of the
first; it is the pair of these, and is stored in the same octets again.  All other octets are refused as
no pair, and of 64 octets the first half is always that of a pair. -/
theorem stored_octets_decoded_exactly :
    (∀ octets : List UInt8, (∃ pair, ofOctets octets = .ok pair) ↔
      octets.length = 64 ∧ octets.drop 32 = Curve.Ed25519.publicKey (octets.take 32)) ∧
    (∀ (octets : List UInt8) (pair : KeyPair), ofOctets octets = .ok pair →
      pair.octets = octets ∧ ofSecretKey? (octets.take 32) = .ok pair) ∧
    (∀ (octets : List UInt8) (failure : Failure), ofOctets octets = .error failure →
      failure.family = .derivation) ∧
    (∀ octets : List UInt8, octets.length = 64 → ∃ pair, ofSecretKey? (octets.take 32) = .ok pair) ∧
    ∀ key : List UInt8, key.length = 32 →
      ∃ pair, ofSecretKey? key = .ok pair ∧ ofOctets pair.octets = .ok pair := by
  have hhalf : ∀ octets : List UInt8, octets.length = 64 → (octets.take 32).length = 32 := by
    intro octets hlength
    rw [List.length_take, hlength]
    rfl
  refine ⟨fun octets => ⟨?_, ?_⟩, fun octets pair h => ?_, fun octets failure h => ?_,
    fun octets hlength => ?_, fun key hlength => ?_⟩
  · rintro ⟨pair, h⟩
    obtain ⟨hlength, hpublic, -⟩ := ofOctets_eq_ok_iff.1 h
    exact ⟨hlength, hpublic⟩
  · rintro ⟨hlength, hpublic⟩
    exact ⟨_, ofOctets_eq_ok_iff.2 ⟨hlength, hpublic, rfl⟩⟩
  · obtain ⟨hlength, -, hpair⟩ := ofOctets_eq_ok_iff.1 h
    exact ⟨octets_of_ofOctets h, ofSecretKey?_eq_ok_iff.2 ⟨hhalf octets hlength, hpair⟩⟩
  · rcases ofOctets_error h with rfl | rfl <;> rfl
  · exact ⟨_, ofSecretKey?_eq_ok_iff.2 ⟨hhalf octets hlength, rfl⟩⟩
  · exact ⟨_, ofSecretKey?_eq_ok_iff.2 ⟨hlength, rfl⟩, ofOctets_octets hlength⟩

/-- The octets of the pair of 32 zeros; with another octet behind them they would be refused. -/
theorem stored_octets_decoded_exactly_zeros :
    let key := List.replicate 32 (0 : UInt8)
    let publicKey : List UInt8 :=
      [0x3B, 0x6A, 0x27, 0xBC, 0xCE, 0xB6, 0xA4, 0x2D, 0x62, 0xA3, 0xA8, 0xD0, 0x2A, 0x6F, 0x0D, 0x73,
       0x65, 0x32, 0x15, 0x77, 0x1D, 0xE2, 0x43, 0xA6, 0x3A, 0xC0, 0x48, 0xA1, 0x8B, 0x59, 0xDA, 0x29]
    (∃ pair, ofOctets (key ++ publicKey) = .ok pair ∧ ofSecretKey? key = .ok pair ∧
      pair.octets = key ++ publicKey) ∧
      ¬ ∃ pair, ofOctets (key ++ publicKey ++ [0]) = .ok pair := by
  intro key publicKey
  obtain ⟨hdecoded, hstored, -, -, -⟩ := stored_octets_decoded_exactly
  have hpublic : Curve.Ed25519.publicKey key = publicKey := by decide +kernel
  obtain ⟨pair, hpair⟩ := (hdecoded (key ++ publicKey)).2 ⟨rfl, hpublic.symm⟩
  obtain ⟨hoctets, hfirst⟩ := hstored _ _ hpair
  refine ⟨⟨pair, hpair, hfirst, hoctets⟩, ?_⟩
  rw [hdecoded]
  rintro ⟨hlength, -⟩
  revert hlength
  decide

end NamedKeys.KeyPair
