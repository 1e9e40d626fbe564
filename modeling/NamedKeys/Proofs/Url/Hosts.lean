import NamedKeys.Proofs.Text.Integer
import NamedKeys.Proofs.Url.International

/-!
# Hosts and ports are read again

The form in which a host is sent is made of characters that are safe in a host, or is an address of groups
(`isSent_readHost`).  Written in front of its port, after what may stand before a host, such a host is cut out
again (`cutHost_authority`) and read as it is, in small letters, unless it has come to look like four numbers
that are none (`readHost_written`).  A port is read as the same port (`readPort_portText`).
-/

namespace NamedKeys

namespace Url

open NamedKeys.Text

variable {host sent : List Char}

/-! ## The forms of hosts -/

/-- The forms in which hosts are sent. -/
def IsSent (host : List Char) : Prop :=
  (∀ c ∈ host, isSafeInHost c = true) ∨ (Host.isGrouped host = true ∧ '@' ∉ host)

/-- What separates the parts of an authority is not safe in a host. -/
theorem not_mem_of_isSafeInHost {c : Char} (h : ∀ d ∈ host, isSafeInHost d = true)
    (hc : c ∈ [':', '@', '[']) : c ∉ host := by
  have hseparates : ∀ c ∈ [':', '@', '['], isSafeInHost c = false := by
    simp [isSafeInHost, isSignBut, isUnreserved]
  intro hmem
  have hsafe := h c hmem
  rw [hseparates c hc] at hsafe
  cases hsafe

/-- Groups have colons between them. -/
theorem colon_mem_of_isGrouped (h : Host.isGrouped host = true) : ':' ∈ host := by
  by_contra hnone
  have hcut : ':' ∉ (cut '%' host).1 := by
    intro hmem
    rw [cut] at hmem
    split at hmem
    · exact hnone hmem
    · exact hnone ((List.takeWhile_prefix _).subset hmem)
  rw [Host.isGrouped] at h
  simp only [Bool.and_eq_true, decide_eq_true_eq, splitOn_of_not_mem hcut, List.length_singleton] at h
  omega

theorem colon_mem_iff (h : IsSent host) : ':' ∈ host ↔ Host.isGrouped host = true := by
  refine ⟨fun hmem => ?_, colon_mem_of_isGrouped⟩
  rcases h with h | h
  · exact absurd hmem (not_mem_of_isSafeInHost h (by simp))
  · exact h.1

theorem IsSent.at_not_mem (h : IsSent host) : '@' ∉ host := by
  rcases h with h | h
  · exact not_mem_of_isSafeInHost h (by simp)
  · exact h.2

/-- Four numbers are digits and points. -/
theorem isDigit_of_isFour (h : Host.isFour host = true) :
    ∀ c ∈ host, c = '.' ∨ c.isDigit = true := by
  intro c hc
  rw [Host.isFour] at h
  simp only [Bool.and_eq_true, decide_eq_true_eq, List.all_eq_true] at h
  have hplace : c = '.' ∨ ∃ part ∈ splitOn '.' host, c ∈ part := mem_splitOn hc
  refine hplace.imp id fun ⟨part, hpart, hc⟩ => ?_
  have hoctet := h.2 part hpart
  rw [Host.isOctet] at hoctet
  simp only [Bool.and_eq_true, List.all_eq_true] at hoctet
  exact hoctet.1.1.1.2 c hc

theorem isSafeInHost_of_isFour (h : Host.isFour host = true) : ∀ c ∈ host, isSafeInHost c = true := by
  intro c hc
  rcases isDigit_of_isFour h c hc with rfl | hdigit
  · simp [isSafeInHost, isSignBut, isUnreserved]
  · simp [isSafeInHost, isSignBut, isUnreserved, isAlphanum_of_isDigit hdigit]

theorem map_toLower_of_isFour (h : Host.isFour host = true) : host.map Char.toLower = host := by
  have hall : ∀ n < 0x7F, (Char.ofNat n).isDigit = true →
      (Char.ofNat n).toLower = Char.ofNat n := by decide
  refine (List.map_congr_left fun c hc => ?_).trans (List.map_id host)
  rcases isDigit_of_isFour h c hc with rfl | hdigit
  · decide
  · have := hall c.toNat (toNat_lt_of_isSignBut (isSafeInHost_of_isFour h c hc)).2
    rw [Char.ofNat_toNat] at this
    exact this hdigit

/-- The forms of hosts are those in which hosts are sent. -/
theorem isSent_readHost (hat : '@' ∉ host) (h : readHost host = .ok sent) : IsSent sent := by
  rw [readHost] at h
  split at h
  · rw [← Except.ok.inj h]
    exact .inl (by simp)
  split at h
  · split at h
    · next hfour =>
      rw [← Except.ok.inj h]
      exact .inl (isSafeInHost_of_isFour hfour)
    · cases h
  split at h
  · dsimp only at h
    split at h
    · next hgrouped =>
      rw [← Except.ok.inj h]
      refine .inr ⟨hgrouped, fun hmem => hat ?_⟩
      exact List.mem_of_mem_drop (List.dropLast_subset _ hmem)
    · cases h
  split at h
  · rw [← Except.ok.inj h]
    exact .inl fun c hc => isSignBut_of_mem_escape (by simp [isSignBut]) hc
  · split at h
    · next hencode =>
      rw [← Except.ok.inj h]
      exact .inl (International.isSafeInHost_of_encode? hencode)
    · cases h

/-! ## Hosts once more -/

/-- A host as it is written in a URL. -/
def written (host : List Char) : List Char :=
  if host.contains ':' then '[' :: host ++ [']'] else host

/-- A host does not look like four numbers that are none. -/
def Stands (host : List Char) : Prop :=
  ':' ∈ host ∨ (Host.looksLikeFour host = true → Host.isFour host = true)

instance (host : List Char) : Decidable (Stands host) :=
  inferInstanceAs (Decidable (_ ∨ _))

/-- The form of a host that is read once more. -/
def hostAgain (host : List Char) : List Char :=
  if ':' ∈ host then host else host.map Char.toLower

theorem written_of_mem (h : ':' ∈ host) : written host = '[' :: host ++ [']'] := by
  rw [written, if_pos (List.contains_iff_mem.2 h)]

theorem written_of_not_mem (h : ':' ∉ host) : written host = host := by
  rw [written, if_neg (by rwa [List.contains_iff_mem])]

/-- An address of groups in brackets is read as it is. -/
theorem readHost_bracketed (h : Host.isGrouped host = true) :
    readHost ('[' :: host ++ [']']) = .ok host := by
  have hlook : Host.looksLikeFour ('[' :: host ++ [']']) = false := by
    rw [Host.looksLikeFour, List.cons_append, Host.isFourRuns]
    simp [Char.isDigit]
  have hbracketed : Host.isBracketed ('[' :: host ++ [']']) = true := by
    have hlast : ('[' :: host ++ [']']).getLast? = some ']' := List.getLast?_concat
    rw [Host.isBracketed, hlast]
    simp
  have hinner : (('[' :: host ++ [']']).drop 1).dropLast = host := by
    simp
  rw [readHost, if_neg (by simp), hlook, if_neg Bool.false_ne_true, if_pos hbracketed, hinner,
    if_pos h]

/-- Characters that are safe in a host are read as small letters, unless they look like four numbers. -/
theorem readHost_of_isSafeInHost (h : ∀ c ∈ host, isSafeInHost c = true)
    (hlook : Host.looksLikeFour host = false) : readHost host = .ok (host.map Char.toLower) := by
  have hopen : '[' ∉ host := not_mem_of_isSafeInHost h (by simp)
  have hbracketed : Host.isBracketed host = false := by
    cases host with
    | nil => rfl
    | cons c cs =>
      have : c ≠ '[' := fun hc => hopen (hc ▸ List.mem_cons_self)
      simp [Host.isBracketed, this]
  have hascii : host.all (·.toNat < 0x80) = true := by
    simp only [List.all_eq_true, decide_eq_true_eq]
    intro c hc
    have := toNat_lt_of_isSignBut (h c hc)
    omega
  have hescape : escape isSafeInHost (host.map Char.toLower) = host.map Char.toLower := by
    refine escape_eq_self fun c hc => ?_
    obtain ⟨d, hd, rfl⟩ := List.mem_map.1 hc
    exact isSignBut_toLower (h d hd)
  by_cases hnil : host = []
  · rw [hnil, List.map_nil]
    rfl
  · rw [readHost, if_neg hnil, hlook, hbracketed, if_neg Bool.false_ne_true, if_neg Bool.false_ne_true, if_pos hascii,
      hescape]

theorem readHost_written (h : IsSent host) :
    readHost (written host) =
      if Stands host then .ok (hostAgain host) else .error (.notFour host) := by
  by_cases hcolon : ':' ∈ host
  · rw [written_of_mem hcolon, readHost_bracketed ((colon_mem_iff h).1 hcolon), if_pos (.inl hcolon),
      hostAgain, if_pos hcolon]
  · have hsafe : ∀ c ∈ host, isSafeInHost c = true :=
      h.resolve_right fun hgroups => hcolon (colon_mem_of_isGrouped hgroups.1)
    rw [written_of_not_mem hcolon, hostAgain, if_neg hcolon]
    cases hlook : Host.looksLikeFour host with
    | false =>
      rw [readHost_of_isSafeInHost hsafe hlook, if_pos (.inr fun h => by rw [hlook] at h; cases h)]
    | true =>
      have hne : host ≠ [] := by
        rintro rfl
        cases hlook
      rw [readHost, if_neg hne, hlook, if_pos rfl]
      by_cases hfour : Host.isFour host = true
      · rw [if_pos hfour, if_pos (.inr fun _ => hfour), map_toLower_of_isFour hfour]
      · have hstands : ¬Stands host := fun hstands =>
          hstands.elim hcolon fun hfour' => hfour (hfour' hlook)
        rw [if_neg hfour, if_neg hstands]

/-! ## Ports -/

def portText : Option Int → List Char
  | none => []
  | some port => (toString port).toList

theorem not_mem_portText {port : Option Int} {c : Char} (hdigit : c.isDigit = false) (hsign : c ≠ '-') :
    c ∉ portText port := by
  cases port with
  | none => exact List.not_mem_nil
  | some port =>
    intro hmem
    rcases mem_toString hmem with h | h
    · rw [hdigit] at h
      cases h
    · exact hsign h

/-- A port that can be read is read again, unless it is the usual one. -/
theorem readPort_portText {port : Option Int} (h : ∀ n ∈ port, n.natAbs < 10 ^ mostDigits)
    (scheme : List Char) :
    readPort scheme (portText port) =
      .ok (port.filter fun n => usualPorts.lookup (String.ofList scheme) ≠ some n) := by
  cases port with
  | none => rfl
  | some n =>
    have hread := readInteger?_toString (h n rfl)
    have hne : portText (some n) ≠ [] := by
      intro hnil
      rw [portText] at hnil
      rw [hnil] at hread
      cases hread
    rw [readPort, if_neg hne, portText, hread, Option.filter_some]
    by_cases husual : usualPorts.lookup (String.ofList scheme) = some n
    · simp [husual]
    · simp [husual]

/-! ## The cut before and behind a host -/

def behind (port : Option Int) : List Char :=
  port.elim [] fun n => ':' :: portText (some n)

theorem not_mem_behind {port : Option Int} {c : Char} (hcolon : c ≠ ':') (hdigit : c.isDigit = false)
    (hsign : c ≠ '-') : c ∉ behind port := by
  cases port with
  | none => exact List.not_mem_nil
  | some n =>
    intro hmem
    rcases List.mem_cons.1 hmem with hc | hmem
    · exact hcolon hc
    · exact not_mem_portText hdigit hsign hmem

theorem authority_eq (url : Url) :
    url.authority = (if url.userInfo = [] then [] else url.userInfo ++ ['@']) ++
      (written url.host ++ behind url.port) := by
  rw [authority, written, List.append_assoc]
  cases url.port <;> rfl

/-- The host is cut before its port. -/
theorem host_of_written (h : IsSent host) (port : Option Int) :
    (let place := written host ++ behind port
      let bracketed := (place.reverse.dropWhile (· ≠ ']')).reverse
      if place.head? = some '[' ∧ bracketed ≠ [] then bracketed
      else place.takeWhile (· ≠ ':')) = written host := by
  dsimp only
  by_cases hcolon : ':' ∈ host
  · have hplace : written host ++ behind port = ('[' :: host) ++ ']' :: behind port := by
      rw [written_of_mem hcolon, List.append_assoc, List.singleton_append]
    have hclose : ']' ∉ behind port := not_mem_behind (by decide) (by decide) (by decide)
    rw [hplace, dropWhile_reverse_append hclose, if_pos ⟨rfl, by simp⟩, written_of_mem hcolon]
  · have hopen : (host ++ behind port).head? ≠ some '[' := by
      intro hhead
      have hmem : '[' ∈ host ++ behind port := List.mem_of_mem_head? hhead
      rcases List.mem_append.1 hmem with hmem | hmem
      · rcases h with h | h
        · exact not_mem_of_isSafeInHost h (by simp) hmem
        · exact hcolon (colon_mem_of_isGrouped h.1)
      · exact not_mem_behind (by decide) (by decide) (by decide) hmem
    have hrun : ∀ c ∈ host, decide (c ≠ ':') = true := by
      intro c hc
      rw [decide_eq_true_iff]
      rintro rfl
      exact hcolon hc
    rw [written_of_not_mem hcolon, if_neg fun hboth => hopen hboth.1, List.takeWhile_append_of_pos hrun]
    cases port with
    | none => rw [behind, Option.elim_none, List.takeWhile_nil, List.append_nil]
    | some n =>
      rw [behind, Option.elim_some, List.takeWhile_cons_of_neg (by decide), List.append_nil]

/-- The parts of an authority are cut where they were put together. -/
theorem cutHost_authority {url : Url} (h : IsSent url.host) :
    cutHost url.authority = (url.userInfo, written url.host, portText url.port) := by
  have hat : '@' ∉ written url.host ++ behind url.port := by
    intro hmem
    rcases List.mem_append.1 hmem with hmem | hmem
    · rw [written] at hmem
      split at hmem
      · rcases List.mem_append.1 hmem with hmem | hmem
        · exact h.at_not_mem (List.mem_of_ne_of_mem (by decide) hmem)
        · simp at hmem
      · exact h.at_not_mem hmem
    · exact not_mem_behind (by decide) (by decide) (by decide) hmem
  have hplace : (url.authority.reverse.takeWhile (· ≠ '@')).reverse =
      written url.host ++ behind url.port := by
    rw [authority_eq]
    split
    · rw [List.nil_append, takeWhile_reverse_of_not_mem hat]
    · rw [List.append_assoc, List.singleton_append, takeWhile_reverse_append hat]
  have huser : url.authority.take
      (url.authority.length - (written url.host ++ behind url.port).length - 1) = url.userInfo := by
    rw [authority_eq]
    split
    · next hnone => rw [List.nil_append, Nat.sub_self, Nat.zero_sub, List.take_zero, hnone]
    · rw [List.append_assoc, List.singleton_append, take_append_cons]
  have hport : (if (behind url.port).head? = some ':' then (behind url.port).drop 1
      else behind url.port) = portText url.port := by
    cases url.port <;> rfl
  rw [cutHost]
  simp only [hplace, huser]
  rw [host_of_written h url.port, List.drop_left, hport]

end Url

end NamedKeys
