import Mathlib.Data.List.Infix
import NamedKeys.Proofs.Text.Ascii

/-!
# ASCII in octets of any sort

Lenient decoding goes over the octets with at most one unfinished character (`step`, `pieces_cons`).  An
octet of ASCII belongs to no other character and ends an unfinished one, and no other octets decode to a
character of ASCII (`step_of_lt`, `eq_of_mem_step`).  So a word of ASCII is found in the decoded text exactly
if its octets are found among the octets, whatever stands around them:

    w <:+: decodeLossy octets ↔ encode w <:+: octets                    (infix_decodeLossy_iff)
-/

namespace NamedKeys.Text.Utf8

/-! ## One octet after the other -/

/-- What an octet adds to the pieces if no character is unfinished, and the unfinished one after it. -/
def firstStep (b : UInt8) : List (Option Char) × Option Pending :=
  match lead b with
  | .char c => ([some c], none)
  | .pending p => ([], some p)
  | .none => ([none], none)

/-- What an octet adds to the pieces, and the unfinished character after it. -/
def step : Option Pending → UInt8 → List (Option Char) × Option Pending
  | none, b => firstStep b
  | some p, b =>
    if p.least ≤ b ∧ b ≤ p.greatest then
      let bits := 64 * p.bits + (b.toNat - 0x80)
      match p.more with
      | 0 => ([some (Char.ofNat bits)], none)
      | more + 1 => ([], some ⟨bits, 0x80, 0xBF, more⟩)
    else (none :: (firstStep b).1, (firstStep b).2)

theorem pieces_cons (p : Option Pending) (b : UInt8) (bs : List UInt8) :
    pieces p (b :: bs) = (step p b).1 ++ pieces (step p b).2 bs := by
  have hstart : pieces.start b bs = (firstStep b).1 ++ pieces (firstStep b).2 bs := by
    rw [pieces.start, firstStep]
    cases lead b <;> rfl
  cases p with
  | none => rw [pieces, hstart, step]
  | some p =>
    obtain ⟨bits, least, greatest, more⟩ := p
    rw [pieces, step]
    split
    · cases more <;> rfl
    · rw [hstart]
      rfl

/-- Only no octets at all give no pieces. -/
theorem pieces_eq_nil {p : Option Pending} {octets : List UInt8} (h : pieces p octets = []) :
    octets = [] ∧ p = none := by
  induction octets generalizing p with
  | nil =>
    cases p with
    | none => exact ⟨rfl, rfl⟩
    | some p => simp [pieces] at h
  | cons b bs ih =>
    rw [pieces_cons, List.append_eq_nil_iff] at h
    obtain ⟨rfl, hnone⟩ := ih h.2
    -- an octet that adds no piece leaves a character unfinished
    have hfirst : (firstStep b).1 ≠ [] ∨ (firstStep b).2 ≠ none := by
      rw [firstStep]
      cases lead b <;> simp
    cases p with
    | none =>
      rw [step] at h hnone
      exact absurd hfirst (by simp [h.1, hnone])
    | some p =>
      rw [step] at h hnone
      grind

/-! ## Unfinished characters -/

namespace Pending

/-- The least number of a character that an unfinished one may become. -/
def low (p : Pending) : Nat :=
  (64 * p.bits + (p.least.toNat - 0x80)) * 64 ^ p.more

/-- The number after the greatest one of such a character. -/
def high (p : Pending) : Nat :=
  (64 * p.bits + (p.greatest.toNat - 0x80) + 1) * 64 ^ p.more

/-- An unfinished character awaits no octet of ASCII, and becomes a character beyond ASCII. -/
structure IsBeyond (p : Pending) : Prop where
  least_ge : 0x80 ≤ p.least.toNat
  low_ge : 0x80 ≤ p.low
  valid : p.high ≤ 0xD800 ∨ 0xDFFF < p.low ∧ p.high ≤ 0x110000

instance (p : Pending) : Decidable p.IsBeyond :=
  decidable_of_iff (0x80 ≤ p.least.toNat ∧ 0x80 ≤ p.low ∧
      (p.high ≤ 0xD800 ∨ 0xDFFF < p.low ∧ p.high ≤ 0x110000))
    ⟨fun ⟨hleast, hlow, hvalid⟩ => ⟨hleast, hlow, hvalid⟩,
      fun ⟨hleast, hlow, hvalid⟩ => ⟨hleast, hlow, hvalid⟩⟩

variable {p : Pending} {b : UInt8}

theorem IsBeyond.not_le_of_lt (h : p.IsBeyond) (hb : b.toNat < 0x80) :
    ¬(p.least ≤ b ∧ b ≤ p.greatest) := by
  rw [UInt8.le_iff_toNat_le]
  have := h.least_ge
  omega

/-- The last octet makes a character beyond ASCII. -/
theorem IsBeyond.toNat_ofNat (h : p.IsBeyond) (hmore : p.more = 0)
    (hb : p.least ≤ b ∧ b ≤ p.greatest) :
    0x80 ≤ (Char.ofNat (64 * p.bits + (b.toNat - 0x80))).toNat := by
  obtain ⟨hleast, hlow, hvalid⟩ := h
  rw [UInt8.le_iff_toNat_le, UInt8.le_iff_toNat_le] at hb
  rw [low, hmore, Nat.pow_zero, Nat.mul_one] at hlow hvalid
  rw [high, hmore, Nat.pow_zero, Nat.mul_one] at hvalid
  have hchar : (64 * p.bits + (b.toNat - 0x80)).isValidChar := by
    rw [Nat.isValidChar]
    omega
  rw [Char.ofNat, dif_pos hchar]
  change 0x80 ≤ 64 * p.bits + (b.toNat - 0x80)
  omega

theorem low_mk (bits more : Nat) : low ⟨bits, 0x80, 0xBF, more⟩ = bits * 64 ^ (more + 1) := by
  have hleast : (0x80 : UInt8).toNat - 0x80 = 0 := rfl
  rw [low, hleast, Nat.add_zero, Nat.pow_succ', ← Nat.mul_assoc, Nat.mul_comm 64]

theorem high_mk (bits more : Nat) :
    high ⟨bits, 0x80, 0xBF, more⟩ = (bits + 1) * 64 ^ (more + 1) := by
  have hgreatest : 64 * bits + ((0xBF : UInt8).toNat - 0x80) + 1 = (bits + 1) * 64 := by
    change 64 * bits + 63 + 1 = _
    omega
  rw [high, hgreatest, Nat.mul_assoc, ← Nat.pow_succ']

/-- Any other octet that may follow narrows the numbers of the characters down. -/
theorem IsBeyond.next (h : p.IsBeyond) {more : Nat} (hmore : p.more = more + 1)
    (hb : p.least ≤ b ∧ b ≤ p.greatest) :
    IsBeyond ⟨64 * p.bits + (b.toNat - 0x80), 0x80, 0xBF, more⟩ := by
  obtain ⟨hleast, hlow, hvalid⟩ := h
  rw [UInt8.le_iff_toNat_le, UInt8.le_iff_toNat_le] at hb
  have hle : p.low ≤ low ⟨64 * p.bits + (b.toNat - 0x80), 0x80, 0xBF, more⟩ := by
    rw [low_mk, low, hmore]
    exact Nat.mul_le_mul_right _ (by omega)
  have hge : high ⟨64 * p.bits + (b.toNat - 0x80), 0x80, 0xBF, more⟩ ≤ p.high := by
    rw [high_mk, high, hmore]
    exact Nat.mul_le_mul_right _ (by omega)
  exact ⟨Nat.le_refl 0x80, Nat.le_trans hlow hle, by omega⟩

end Pending

/-- What an octet begins is the character of ASCII that it is, or beyond ASCII. -/
def Lead.IsSound (b : UInt8) : Lead → Prop
  | .char c => c.toNat = b.toNat
  | .pending p => p.IsBeyond
  | .none => True

instance (b : UInt8) : (l : Lead) → Decidable (l.IsSound b)
  | .char c => inferInstanceAs (Decidable (c.toNat = b.toNat))
  | .pending p => inferInstanceAs (Decidable p.IsBeyond)
  | .none => inferInstanceAs (Decidable True)

theorem isSound_lead (b : UInt8) : (lead b).IsSound b := by
  have hall : ∀ n < 256, (lead (UInt8.ofNat n)).IsSound (UInt8.ofNat n) := by decide +kernel
  have := hall b.toNat b.toNat_lt
  rwa [UInt8.ofNat_toNat] at this

/-! ## What one octet does -/

/-- No unfinished character is of ASCII. -/
def IsBeyond (p : Option Pending) : Prop :=
  ∀ q ∈ p, q.IsBeyond

variable {p : Option Pending} {b : UInt8} {c : Char}

theorem isBeyond_none : IsBeyond none :=
  fun _ hq => absurd hq (Option.not_mem_none _)

theorem isBeyond_firstStep (b : UInt8) : IsBeyond (firstStep b).2 := by
  have hlead := isSound_lead b
  rw [firstStep]
  cases hl : lead b with
  | char c => exact isBeyond_none
  | pending q =>
    rw [hl] at hlead
    rintro _ ⟨⟩
    exact hlead
  | none => exact isBeyond_none

theorem isBeyond_step (h : IsBeyond p) (b : UInt8) : IsBeyond (step p b).2 := by
  cases p with
  | none => exact isBeyond_firstStep b
  | some p =>
    rw [step]
    split
    · next hb =>
      dsimp only
      split
      · exact isBeyond_none
      · next more hmore =>
        intro q hq
        rw [← Option.mem_some.1 hq]
        exact (h p rfl).next hmore hb
    · exact isBeyond_firstStep b

theorem eq_of_mem_firstStep (hmem : some c ∈ (firstStep b).1) : b = UInt8.ofNat c.toNat := by
  have hlead := isSound_lead b
  rw [firstStep] at hmem
  cases hl : lead b with
  | char d =>
    rw [hl] at hmem hlead
    obtain rfl : c = d := by simpa using hmem
    rw [show c.toNat = b.toNat from hlead, UInt8.ofNat_toNat]
  | pending q => simp [hl] at hmem
  | none => simp [hl] at hmem

/-- A character of ASCII comes from the octet that it is. -/
theorem eq_of_mem_step (h : IsBeyond p) (hc : c.toNat < 128) (hmem : some c ∈ (step p b).1) :
    b = UInt8.ofNat c.toNat := by
  cases p with
  | none => exact eq_of_mem_firstStep hmem
  | some p =>
    rw [step] at hmem
    split at hmem
    · next hb =>
      dsimp only at hmem
      split at hmem
      · next hmore =>
        have := (h p rfl).toNat_ofNat hmore hb
        rw [← Option.some.inj (List.mem_singleton.1 hmem)] at this
        omega
      · exact absurd hmem List.not_mem_nil
    · exact eq_of_mem_firstStep (by simpa using hmem)

theorem step_of_lt (h : IsBeyond p) (hc : c.toNat < 128) :
    step p (UInt8.ofNat c.toNat) = (pieces p [] ++ [some c], none) := by
  have hfirst : firstStep (UInt8.ofNat c.toNat) = ([some c], none) := by
    rw [firstStep, lead_of_lt hc]
  have hnat : (UInt8.ofNat c.toNat).toNat < 0x80 := by
    rw [UInt8.toNat_ofNat']
    omega
  cases p with
  | none => rw [step, hfirst, pieces, List.nil_append]
  | some p =>
    rw [step, if_neg ((h p rfl).not_le_of_lt hnat), hfirst, pieces, List.singleton_append]

/-! ## Words of ASCII -/

theorem not_mem_pieces_nil (p : Option Pending) (c : Char) : some c ∉ pieces p [] := by
  cases p <;> simp [pieces]

/-- What the octet of a character of ASCII adds to the pieces ends with this character. -/
theorem eq_of_step_eq_append (h : IsBeyond p) (hc : c.toNat < 128)
    {front rest : List (Option Char)} (hout : (step p b).1 = front ++ some c :: rest) :
    b = UInt8.ofNat c.toNat ∧ front = pieces p [] ∧ rest = [] := by
  have hmem : some c ∈ (step p b).1 := by
    rw [hout]
    exact List.mem_append_right _ List.mem_cons_self
  obtain rfl := eq_of_mem_step h hc hmem
  rw [step_of_lt h hc] at hout
  have hnot := not_mem_pieces_nil p c
  obtain ⟨rest', rfl, hone⟩ | ⟨rest', hpieces, hrest⟩ := List.append_eq_append_iff.1 hout
  · cases rest' with
    | nil => simpa using hone
    | cons d rest' => simp at hone
  · cases rest' with
    | nil => exact ⟨rfl, (hpieces.trans (List.append_nil _)).symm, (List.cons.inj hrest).2⟩
    | cons d rest' =>
      rw [List.cons_append, List.cons.injEq] at hrest
      rw [hpieces, hrest.1] at hnot
      exact absurd (List.mem_append_right _ List.mem_cons_self) hnot

/-- The characters before and after one of ASCII are those of the octets before and after its octet. -/
theorem pieces_eq_append_cons_iff (h : IsBeyond p) (hc : c.toNat < 128) {octets : List UInt8}
    {front back : List (Option Char)} :
    pieces p octets = front ++ some c :: back ↔
      ∃ before after, octets = before ++ UInt8.ofNat c.toNat :: after ∧
        pieces p before = front ∧ pieces none after = back := by
  constructor
  · intro heq
    induction octets generalizing p front with
    | nil =>
      have := not_mem_pieces_nil p c
      rw [heq] at this
      exact absurd (List.mem_append_right _ List.mem_cons_self) this
    | cons b bs ih =>
      rw [pieces_cons] at heq
      -- the character is found further on or here
      have further : ∀ rest, front = (step p b).1 ++ rest →
          pieces (step p b).2 bs = rest ++ some c :: back →
          ∃ before after, b :: bs = before ++ UInt8.ofNat c.toNat :: after ∧
            pieces p before = front ∧ pieces none after = back := by
        rintro rest rfl hrest
        obtain ⟨before, after, rfl, rfl, rfl⟩ := ih (isBeyond_step h b) hrest
        exact ⟨b :: before, after, rfl, pieces_cons p b before, rfl⟩
      obtain ⟨rest, hfront, hrest⟩ | ⟨rest, hout, hrest⟩ := List.append_eq_append_iff.1 heq
      · exact further rest hfront hrest
      · cases rest with
        | nil =>
          rw [List.append_nil] at hout
          exact further [] (by rw [hout, List.append_nil]) hrest.symm
        | cons d rest =>
          rw [List.cons_append, List.cons.injEq] at hrest
          obtain ⟨rfl, hback⟩ := hrest
          obtain ⟨rfl, hfront, rfl⟩ := eq_of_step_eq_append h hc hout
          rw [step_of_lt h hc] at hback
          exact ⟨[], bs, rfl, hfront.symm, hback.symm⟩
  · rintro ⟨before, after, rfl, rfl, rfl⟩
    induction before generalizing p with
    | nil => rw [List.nil_append, pieces_cons, step_of_lt h hc, List.append_assoc]; rfl
    | cons b before ih =>
      rw [List.cons_append, pieces_cons, pieces_cons, ih (isBeyond_step h b), List.append_assoc]

theorem pieces_eq_cons_iff (hc : c.toNat < 128) {octets : List UInt8}
    {back : List (Option Char)} :
    pieces none octets = some c :: back ↔
      ∃ after, octets = UInt8.ofNat c.toNat :: after ∧ pieces none after = back := by
  rw [← List.nil_append (some c :: back), pieces_eq_append_cons_iff isBeyond_none hc]
  constructor
  · rintro ⟨before, after, rfl, hbefore, hafter⟩
    obtain ⟨rfl, -⟩ := pieces_eq_nil hbefore
    exact ⟨after, rfl, hafter⟩
  · rintro ⟨after, rfl, hafter⟩
    exact ⟨[], after, rfl, by rw [pieces], hafter⟩

theorem encode_cons (hc : c.toNat < 128) (cs : List Char) :
    encode (c :: cs) = UInt8.ofNat c.toNat :: encode cs := by
  rw [encode, List.flatMap_cons, encodeChar_of_lt hc]
  rfl

/-- A word of ASCII begins the pieces exactly if its octets begin the octets. -/
theorem prefix_pieces_iff {w : List Char} (hw : IsAscii w) {octets : List UInt8} :
    w.map some <+: pieces none octets ↔ encode w <+: octets := by
  induction w generalizing octets with
  | nil => exact iff_of_true List.nil_prefix List.nil_prefix
  | cons c w ih =>
    have hc : c.toNat < 128 := hw c List.mem_cons_self
    have hw' : IsAscii w := fun d hd => hw d (List.mem_cons_of_mem _ hd)
    rw [encode_cons hc, List.map_cons]
    constructor
    · rintro ⟨back, hback⟩
      obtain ⟨after, rfl, hafter⟩ := (pieces_eq_cons_iff hc).1 hback.symm
      exact (List.prefix_cons_inj _).2 ((ih hw').1 ⟨back, hafter.symm⟩)
    · rintro ⟨after, rfl⟩
      obtain ⟨back, hback⟩ := (ih hw').2 (List.prefix_append (encode w) after)
      refine ⟨back, ?_⟩
      rw [List.cons_append, hback]
      exact ((pieces_eq_cons_iff hc).2 ⟨encode w ++ after, rfl, rfl⟩).symm

theorem infix_pieces_iff {w : List Char} (hne : w ≠ []) (hw : IsAscii w) {octets : List UInt8} :
    w.map some <:+: pieces none octets ↔ encode w <:+: octets := by
  obtain ⟨c, w, rfl⟩ := List.exists_cons_of_ne_nil hne
  have hc : c.toNat < 128 := hw c List.mem_cons_self
  have hw' : IsAscii w := fun d hd => hw d (List.mem_cons_of_mem _ hd)
  rw [encode_cons hc, List.map_cons]
  constructor
  · rintro ⟨front, back, hpieces⟩
    rw [List.append_assoc, List.cons_append] at hpieces
    obtain ⟨before, after, rfl, -, hafter⟩ :=
      (pieces_eq_append_cons_iff isBeyond_none hc).1 hpieces.symm
    obtain ⟨rest, rfl⟩ := (prefix_pieces_iff hw').1 ⟨back, hafter.symm⟩
    exact ⟨before, rest, by simp⟩
  · rintro ⟨before, rest, rfl⟩
    obtain ⟨back, hback⟩ := (prefix_pieces_iff hw').2 (List.prefix_append (encode w) rest)
    refine ⟨pieces none before, back, ?_⟩
    rw [List.append_assoc, List.cons_append, hback, List.append_assoc, List.cons_append]
    exact ((pieces_eq_append_cons_iff isBeyond_none hc).2 ⟨before, _, rfl, rfl, rfl⟩).symm

/-- A word of ASCII is found in the decoded text exactly if its octets are found among the octets. -/
theorem infix_decodeLossy_iff {w : List Char} (hne : w ≠ []) (hw : IsAscii w)
    {octets : List UInt8} : w <:+: decodeLossy octets ↔ encode w <:+: octets := by
  rw [← infix_pieces_iff hne hw, decodeLossy, List.infix_map_iff]
  constructor
  · rintro ⟨found, hfound, heq⟩
    -- the replacement character is beyond ASCII, so every piece found is a character
    have hread : found = w.map some := by
      rw [heq, List.map_map]
      refine (List.map_id found).symm.trans (List.map_congr_left fun piece hpiece => ?_)
      cases piece with
      | some c => rfl
      | none =>
        have hmem : '\uFFFD' ∈ w := by
          rw [heq]
          exact List.mem_map.2 ⟨none, hpiece, rfl⟩
        exact absurd (hw _ hmem) (by decide)
    rwa [← hread]
  · intro hfound
    refine ⟨w.map some, hfound, ?_⟩
    rw [List.map_map]
    exact (List.map_id w).symm

end NamedKeys.Text.Utf8
