import NamedKeys.Proofs.Url.Hosts
import NamedKeys.Proofs.Url.Paths

/-!
# The URL of a request is another one but for its query

The URL that a text writes has each part in the form in which it is sent (`isRead_ofText`), and the parts that
make the URL of a request are read as they are but for the query, the letters of the host, which become small,
and a port that turns out to be the usual one (`ofRaw_again`).  So if no part is too long and the host stands,
a request with one parameter has the place of the URL that it is made from, and this parameter for its query:

    request cs name value = .ok { url.again with query := some .. }          (request_eq_ok_iff)
-/

namespace NamedKeys

namespace Url

open NamedKeys.Text

variable {raw : Raw} {url : Url} {cs : List Char}

/-! ## The forms of the parts -/

/-- The parts of a URL that names a host have the forms in which they are sent. -/
structure IsRead (url : Url) : Prop where
  scheme : url.scheme.map Char.toLower = url.scheme
  userInfo : ∀ c ∈ url.userInfo, isSafeInUserInfo c = true
  host : IsSent url.host
  port : ∀ n ∈ url.port, n.natAbs < 10 ^ mostDigits
  isRooted : IsRooted url.path
  path : readPath url.path = url.path
  safePath : ∀ c ∈ url.path, isSafeInPath c = true
  fragment : ∀ fragment ∈ url.fragment, ∀ c ∈ fragment, isSafeInFragment c = true

theorem at_not_mem_cutHost (authority : List Char) : '@' ∉ (cutHost authority).2.1 := by
  have hplace : '@' ∉ (authority.reverse.takeWhile (· ≠ '@')).reverse := by
    intro hmem
    have := List.mem_takeWhile_imp (List.mem_reverse.1 hmem)
    simp at this
  rw [cutHost]
  dsimp only
  generalize (authority.reverse.takeWhile (· ≠ '@')).reverse = place at hplace
  split
  · intro hmem
    have := (List.dropWhile_suffix _).subset (List.mem_reverse.1 hmem)
    exact hplace (List.mem_reverse.1 this)
  · exact fun hmem => hplace ((List.takeWhile_prefix _).subset hmem)

theorem natAbs_lt_of_readPort {scheme text : List Char} {port : Option Int}
    (h : readPort scheme text = .ok port) : ∀ n ∈ port, n.natAbs < 10 ^ mostDigits := by
  rw [readPort] at h
  split at h
  · rw [← Except.ok.inj h]
    simp
  · split at h
    · cases h
    · next n hn =>
      rw [← Except.ok.inj h]
      split
      · simp
      · intro m hm
        rw [← Option.some.inj hm]
        exact natAbs_lt_of_read hn

theorem isRooted_of_checkPath {hasScheme : Bool} {path : List Char}
    (h : checkPath hasScheme true path = .ok ()) : IsRooted path := by
  rw [checkPath] at h
  split at h
  · cases h
  · next hpath =>
    by_cases hnil : path = []
    · exact .inl hnil
    · exact .inr (by simpa [hnil] using hpath)

theorem checkPath_of_isRooted {hasScheme hasHost : Bool} {path : List Char} (h : IsRooted path)
    (hplace : (hasScheme || hasHost) = true) : checkPath hasScheme hasHost path = .ok () := by
  rw [checkPath, if_neg, if_neg, if_neg]
  · cases hasScheme <;> simp_all
  · cases hasScheme <;> simp_all
  · rcases h with rfl | h
    · simp
    · simp [h]

/-- The URL of raw parts has each part in the form in which it is sent. -/
theorem isRead_ofRaw (h : ofRaw raw = .ok url) (habsolute : url.isAbsolute = true) : url.IsRead := by
  rw [isAbsolute, Bool.and_eq_true, decide_eq_true_iff, decide_eq_true_iff] at habsolute
  obtain ⟨host, hhost, h⟩ := exists_of_bind_ok h
  obtain ⟨port, hport, h⟩ := exists_of_bind_ok h
  obtain ⟨⟨⟩, hpath, h⟩ := exists_of_bind_ok h
  obtain rfl := Except.ok.inj h
  dsimp only at habsolute hpath
  have hhas : ∀ before after : Bool, (before || decide (host ≠ []) || after) = true := by
    simp [habsolute.2]
  rw [hhas] at hpath
  have hrooted : IsRooted raw.path := isRooted_of_checkPath hpath
  have hsafe : ∀ {others : String} {cs : List Char}, isSignBut others '%' = true →
      ∀ c ∈ escape (isSignBut others) cs, isSignBut others c = true :=
    fun hpercent _ hc => isSignBut_of_mem_escape hpercent hc
  constructor
  · dsimp only
    rw [List.map_map]
    exact List.map_congr_left fun c _ => toLower_toLower c
  · exact hsafe (by simp [isSignBut])
  · exact isSent_readHost (at_not_mem_cutHost raw.authority) hhost
  · exact natAbs_lt_of_readPort hport
  all_goals dsimp only
  · rw [hhas, Bool.or_true, if_pos rfl]
    exact isRooted_escape hrooted
  · rw [hhas, Bool.or_true, if_pos rfl]
    exact readPath_escape hrooted
  · exact hsafe (by simp [isSignBut])
  · intro fragment hfragment
    obtain ⟨text, -, rfl⟩ := Option.map_eq_some_iff.1 hfragment
    exact hsafe (by simp [isSignBut])

theorem isRead_ofText (h : ofText cs = .ok url) (habsolute : url.isAbsolute = true) : url.IsRead := by
  rw [ofText] at h
  split at h
  · cases h
  · split at h
    · cases h
    · exact isRead_ofRaw h habsolute

/-! ## The parts once more -/

/-- A URL as it is read from its own parts. -/
def again (url : Url) : Url :=
  { url with
    host := hostAgain url.host
    port := url.port.filter fun n => usualPorts.lookup (String.ofList url.scheme) ≠ some n }

/-- The parts of a URL are read as they are, with another query, if its host stands. -/
theorem ofRaw_again (h : url.IsRead) (habsolute : url.isAbsolute = true) (query : Option (List Char)) :
    ofRaw ⟨url.scheme, url.authority, url.path, query, url.fragment⟩ =
      if Stands url.host then
        .ok { url.again with query := query.map (escape isSafeInQuery) }
      else .error (.notFour url.host) := by
  rw [isAbsolute, Bool.and_eq_true, decide_eq_true_iff, decide_eq_true_iff] at habsolute
  have hfragment : url.fragment.map (escape isSafeInFragment) = url.fragment := by
    cases hf : url.fragment with
    | none => rfl
    | some fragment => rw [Option.map_some, escape_eq_self (h.fragment fragment hf)]
  have hplace : ∀ hasHost : Bool, (decide (url.scheme ≠ []) || hasHost) = true := by
    simp [habsolute.1]
  rw [ofRaw]
  simp only [cutHost_authority h.host]
  rw [readHost_written h.host]
  split
  · rw [ok_bind, readPort_portText h.port, ok_bind]
    simp only [h.scheme, escape_eq_self h.userInfo, checkPath_of_isRooted h.isRooted (hplace _), ok_bind,
      hplace, if_true, h.path, escape_eq_self h.safePath, hfragment]
    rfl
  · rfl

/-! ## The URL of a request -/

def withParameter (url : Url) (name value : String) : Url :=
  { url with query := some (name.toList ++ '=' :: parameterText value) }

/-- What the request for a URL that names a host is: the URL as it is read once more, with the parameter for
its query, if no part is too long and the host stands. -/
theorem request_eq_ok_iff (h : ofText cs = .ok url) (habsolute : url.isAbsolute = true)
    {name value : String} {sent : Url} :
    request cs name value = .ok sent ↔
      (url.withParameter name value).Fits ∧ Stands url.host ∧
        sent = { url.again with
          query := some (escape isSafeInQuery (name.toList ++ '=' :: parameterText value)) } := by
  have hread := isRead_ofText h habsolute
  have hrequest : request cs name value = ((url.withParameter name value).raw >>= ofRaw) := by
    rw [request, h, ok_bind, if_pos habsolute]
    rfl
  rw [hrequest]
  constructor
  · intro hsent
    obtain ⟨raw, hraw, hsent⟩ := exists_of_bind_ok hsent
    obtain ⟨hfits, rfl⟩ := raw_eq_ok_iff.1 hraw
    have hof := (ofRaw_again hread habsolute (url.withParameter name value).query).symm.trans hsent
    split at hof
    · next hstands => exact ⟨hfits, hstands, (Except.ok.inj hof).symm⟩
    · cases hof
  · rintro ⟨hfits, hstands, rfl⟩
    rw [raw_eq_ok_iff.2 ⟨hfits, rfl⟩]
    refine (ofRaw_again hread habsolute (url.withParameter name value).query).trans ?_
    rw [if_pos hstands]
    rfl

/-! ## The place of a URL -/

/-- The port to which a request is sent, if the scheme of its URL has a usual one. -/
def usedPort (url : Url) : Option Int :=
  url.port <|> usualPorts.lookup (String.ofList url.scheme)

/-- A URL has the place of another: it differs from it in the query, in large letters of the host and in
naming the usual port at most. -/
structure SamePlace (sent url : Url) : Prop where
  scheme : sent.scheme = url.scheme
  userInfo : sent.userInfo = url.userInfo
  host : sent.host.map Char.toLower = url.host.map Char.toLower
  port : sent.usedPort = url.usedPort
  path : sent.path = url.path
  fragment : sent.fragment = url.fragment

theorem samePlace_again (url : Url) (query : Option (List Char)) :
    SamePlace { url.again with query } url where
  scheme := rfl
  userInfo := rfl
  host := by
    change (hostAgain url.host).map Char.toLower = _
    rw [hostAgain]
    split
    · rfl
    · rw [List.map_map]
      exact List.map_congr_left fun c _ => toLower_toLower c
  port := by
    change ((url.port.filter _) <|> usualPorts.lookup (String.ofList url.scheme)) = _
    rw [usedPort]
    cases url.port with
    | none => rfl
    | some n =>
      rw [Option.filter_some]
      by_cases husual : usualPorts.lookup (String.ofList url.scheme) = some n
      · rw [if_neg (by simp [husual]), husual]
        rfl
      · rw [if_pos (decide_eq_true husual)]
  path := rfl
  fragment := rfl

end Url

end NamedKeys
