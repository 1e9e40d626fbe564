import NamedKeys.Proofs.CommandLine.Intact
import NamedKeys.Proofs.CommandLine.Lines
import NamedKeys.Proofs.Network

/-!
# The commands that ask for a pair agree

Three commands ask for the pair of an identity, at a path, with general options: one prints its address, one
its secret key, and one has its address funded.  They choose the store and the keychain in one way and read
the identity in one way, so that with the same options they find the same pair, or fail alike
(`agree_run`), and the address that is to be funded is the one that would be printed
(`requests_run_fund`):

    inquiries_agree
-/

namespace NamedKeys

open NamedKeys.Action

namespace CommandLine

/-! ## The pair of an identity -/

/-- The pair of an identity, if there is one, is that of a secret key. -/
theorem returns_keyPairOf (general : General) (store : Store) (name : IdentityName)
    (path : Option Int) :
    Returns (fun pair => ∃ key, key.length = 32 ∧ pair = KeyPair.ofSecretKey key)
      (keyPairOf general store name path) := by
  intro world after pair hrun
  obtain ⟨secret, read, -, hrun⟩ := exists_of_runOn_bind hrun
  obtain ⟨chosen, opened, -, hrun⟩ := exists_of_runOn_bind hrun
  have hpair := runOn_keyPairOfSecret secret path chosen opened
  rw [hrun] at hpair
  exact pairOfSecret_ok hpair.symm

variable {general : General} {store : Store} {name : IdentityName} {path : Option Int}
  {arguments : Arguments} {reply : Reply} {world : World}

theorem runOn_address_fst :
    (((Task.address name path).run general store reply).runOn world).1 =
      ((keyPairOf general store name path).runOn world).1.map (·.address ++ "\n") := by
  rw [Task.run, bind_pure_comp, runOn_map_fst]

theorem runOn_show_fst :
    (((Task.show name path).run general store reply).runOn world).1 =
      ((keyPairOf general store name path).runOn world).1.map (·.secret ++ "\n") := by
  rw [Task.run, bind_pure_comp, runOn_map_fst]

theorem runOn_chosenNetwork (arguments : Arguments) (world : World) :
    ∃ result, (chosenNetwork arguments).runOn world = (result, world) := by
  refine ⟨((chosenNetwork arguments).runOn world).1, ?_⟩
  rw [chosenNetwork, runOn_bind, runOn_get]
  dsimp only
  rw [runOn_ofExcept]

/-- Funding the address of an identity sends at most one request, which asks for this address. -/
theorem requests_fund (general : General) (store : Store) (name : IdentityName)
    (path : Option Int) (arguments : Arguments) (reply : Reply) (world : World) :
    ∃ sent, (((Task.fund name path arguments).run general store reply).runOn world).2.requests =
        world.requests ++ sent ∧
      (sent = [] ∨ ∃ pair, ((keyPairOf general store name path).runOn world).1 = .ok pair ∧
        ∃ (friendbotUrl : String) (url : Url),
          Url.request friendbotUrl.toList "addr" pair.address = .ok url ∧
            sent = ["GET " ++ url.text]) := by
  have hquiet : Keeps World.SameRequests (keyPairOf general store name path) :=
    keeps_keyPairOf (fun entry _ => .allowsAsking entry) general store name path
  have hsame : ((keyPairOf general store name path).runOn world).2.requests = world.requests :=
    hquiet world
  obtain ⟨network, hnetwork⟩ := runOn_chosenNetwork arguments world
  rw [Task.run]
  cases network with
  | error failure =>
    rw [runOn_bind_error hnetwork]
    exact ⟨[], (List.append_nil _).symm, .inl rfl⟩
  | ok network =>
    rw [runOn_bind_ok hnetwork]
    rcases hpair : (keyPairOf general store name path).runOn world with ⟨failure | pair, middle⟩
    · rw [hpair] at hsame
      rw [runOn_bind_error hpair]
      exact ⟨[], by rw [hsame, List.append_nil], .inl rfl⟩
    · rw [hpair] at hsame
      obtain ⟨after, -, hrequests, hfund⟩ :=
        Generate.runOn_fund (network.fund reply) pair.address middle
      rw [runOn_bind_ok hpair, bind_pure_comp, runOn_map_snd, hfund]
      dsimp only
      refine ⟨_, by rw [hrequests, hsame], ?_⟩
      rw [network.requests_fund]
      cases hsent : network.sentUrl? pair.address with
      | none => exact .inl rfl
      | some url =>
        obtain ⟨friendbotUrl, -, hurl⟩ := Network.exists_of_sentUrl? hsent
        exact .inr ⟨pair, rfl, friendbotUrl, url, hurl, rfl⟩

/-! ## Printing one half or the other -/

/-- How the command that prints an address and the one that prints a secret key end together. -/
inductive Agree : Outcome → Outcome → Prop
  | help (form form' : String) :
    Agree ⟨0, "Usage: " ++ form ++ "\n", "", none⟩ ⟨0, "Usage: " ++ form' ++ "\n", "", none⟩
  | misuse (misuse misuse' : Misuse) : Agree (.ofMisuse misuse) (.ofMisuse misuse')
  | failure {outcome : Outcome} (hcode : outcome.code = 1) (houtput : outcome.output = "") :
    Agree outcome outcome
  | pair {key : List UInt8} (hkey : key.length = 32) :
    Agree ⟨0, (KeyPair.ofSecretKey key).address ++ "\n", "", none⟩
      ⟨0, (KeyPair.ofSecretKey key).secret ++ "\n", "", none⟩

/-- A failure is told, or escapes, in one way. -/
theorem Agree.of_error (failure : Failure) :
    Agree (.ofResult "" (.error failure)) (.ofResult "" (.error failure)) := by
  refine .failure ?_ ?_ <;> · unfold Outcome.ofResult; dsimp only; split <;> rfl

def Outcome.Prints (outcome : Outcome) (text : String) : Prop :=
  outcome.code = 0 ∧ outcome.output = text ++ "\n"

theorem Outcome.prints_iff {text errors other : String} {escaped : Option Failure} :
    Outcome.Prints ⟨0, text ++ "\n", errors, escaped⟩ other ↔ text = other := by
  rw [Outcome.Prints, String.append_left_inj]
  exact and_iff_right rfl

/-- What is printed for help is no key, since it has a small letter. -/
theorem not_isTextOf_help {kind : KeyText.Kind} (form : String) :
    ¬ KeyText.IsTextOf kind ("Usage: " ++ form) := by
  intro h
  have hmem : 's' ∈ ("Usage: " ++ form).toList := by
    rw [String.toList_append, List.mem_append]
    exact .inl (by decide)
  have hdigit := (h.isDigit 's' hmem).toNat
  revert hdigit
  decide

variable {address shown : Outcome}

theorem Agree.prints_iff (h : Agree address shown) :
    (∃ text, KeyText.IsTextOf .publicKey text ∧ address.Prints text) ↔
      ∃ text, KeyText.IsTextOf .secretKey text ∧ shown.Prints text := by
  cases h with
  | help form form' =>
    refine iff_of_false ?_ ?_
    · rintro ⟨text, htext, hprints⟩
      obtain rfl := Outcome.prints_iff.1 hprints
      exact not_isTextOf_help form htext
    · rintro ⟨text, htext, hprints⟩
      obtain rfl := Outcome.prints_iff.1 hprints
      exact not_isTextOf_help form' htext
  | misuse =>
    refine iff_of_false ?_ ?_ <;>
    · rintro ⟨text, -, hcode, -⟩
      cases hcode
  | failure hcode =>
    refine iff_of_false ?_ ?_ <;>
    · rintro ⟨text, -, hzero, -⟩
      rw [hcode] at hzero
      cases hzero
  | @pair key hkey =>
    refine iff_of_true ⟨_, ?_, Outcome.prints_iff.2 rfl⟩ ⟨_, ?_, Outcome.prints_iff.2 rfl⟩
    · exact ⟨_, Curve.Ed25519.length_publicKey key, rfl⟩
    · exact ⟨key, hkey, rfl⟩

/-- What is printed are the two halves of one pair. -/
theorem Agree.address_eq (h : Agree address shown) {text secret : String}
    (htext : KeyText.IsTextOf .publicKey text) (haddress : address.Prints text)
    (hshown : shown.Prints secret) :
    ∃ pair, KeyPair.ofKeyText secret = .ok pair ∧ pair.address = text := by
  cases h with
  | help form form' =>
    obtain rfl := Outcome.prints_iff.1 haddress
    exact absurd htext (not_isTextOf_help form)
  | misuse => cases haddress.1
  | failure hcode =>
    rw [Outcome.Prints, hcode] at haddress
    cases haddress.1
  | pair hkey =>
    obtain rfl := Outcome.prints_iff.1 haddress
    obtain rfl := Outcome.prints_iff.1 hshown
    exact ⟨_, KeyPair.ofKeyText_secret hkey, rfl⟩

theorem Agree.fails (h : Agree address shown) :
    (address.code = 1 ↔ shown.code = 1) ∧
      (address.code = 1 → shown = address ∧ address.output = "") := by
  cases h with
  | help => exact ⟨.rfl, by rintro ⟨⟩⟩
  | misuse => exact ⟨.rfl, by rintro ⟨⟩⟩
  | failure _ houtput => exact ⟨.rfl, fun _ => ⟨rfl, houtput⟩⟩
  | pair => exact ⟨.rfl, by rintro ⟨⟩⟩

/-! ## Runs with one general part -/

/-- A run with a general part ends at it, whatever the command, or it goes on to the words of the command
with the options and the store that have been chosen. -/
inductive Opening (before : List String) (reply : Reply) (world : World) : Prop
  | closed {outcome : Outcome} {last : World} (hagree : Agree outcome outcome)
      (hrequests : last.requests = world.requests)
      (hends : ∀ (inquiry : Inquiry) (words : List String),
        Ends (before ++ inquiry.command.name :: words) reply world outcome last)
  | opened {general : General} {store : Store} {start : World}
      (hrequests : start.requests = world.requests)
      (hline : ∀ (inquiry : Inquiry) (words : List String),
        readLine world (before ++ inquiry.command.name :: words) =
          .ok (some (general, inquiry.command, words)))
      (hopen : (openStore general).runOn { world with memory := [] } = (.ok store, start))

variable {before : List String}

theorem opening (h : IsGeneralPart before) (reply : Reply) (world : World) :
    Opening before reply world := by
  have hline : ∀ (inquiry : Inquiry) (words : List String) {found},
      generalOf world before = found → readLine world (before ++ inquiry.command.name :: words) =
        found.map (Option.map fun general => (general, inquiry.command, words)) := by
    rintro inquiry words found rfl
    exact readLine_append h world inquiry.command words
  rcases hgeneral : generalOf world before with fault | _ | general
  · refine .closed (.misuse _ _) ?_ fun inquiry words => .unread (hline inquiry words hgeneral)
    rfl
  · refine .closed (.help _ _) ?_ fun inquiry words => .helped (hline inquiry words hgeneral)
    rfl
  · have hquiet : World.SameRequests { world with memory := [] }
        ((openStore general).runOn { world with memory := [] }).2 := keeps_openStore general _
    rcases hopen : (openStore general).runOn { world with memory := [] } with
      ⟨failure | store, start⟩
    · rw [hopen] at hquiet
      exact .closed (.failure rfl rfl) hquiet fun inquiry words =>
        .unopened (hline inquiry words hgeneral) hopen
    · rw [hopen] at hquiet
      exact .opened hquiet (fun inquiry words => hline inquiry words hgeneral) hopen

/-- The commands that print a half of the pair agree. -/
theorem agree_run (h : IsGeneralPart before) (rest : List String) (reply : Reply) (world : World) :
    Agree (run (before ++ Inquiry.address.command.name :: rest) reply world).1
      (run (before ++ Inquiry.show.command.name :: rest) reply world).1 := by
  cases opening h reply world with
  | closed hagree _ hends =>
    rw [(run_of_ends (hends .address rest)).1, (run_of_ends (hends .show rest)).1]
    exact hagree
  | @opened general store start _ hline hopen =>
    have haddress := ofWords_command .address rest
    have hshow := ofWords_command .show rest
    have hoptions : Inquiry.show.command.options = Inquiry.address.command.options := rfl
    rw [hoptions] at hshow
    rcases hsubject : subjectOf Inquiry.address.command.options rest with
      fault | ⟨arguments, _ | ⟨name, path⟩⟩
    · rw [hsubject] at haddress hshow
      rw [(run_of_ends (.misused (hline .address rest) hopen haddress)).1,
        (run_of_ends (.misused (hline .show rest) hopen hshow)).1]
      exact .misuse _ _
    · rw [hsubject] at haddress hshow
      rw [(run_of_task (hline .address rest) hopen haddress reply).1,
        (run_of_task (hline .show rest) hopen hshow reply).1]
      exact .help _ _
    · rw [hsubject] at haddress hshow
      rw [(run_of_task (hline .address rest) hopen haddress reply).1,
        (run_of_task (hline .show rest) hopen hshow reply).1]
      change Agree (.ofResult "" (((Task.address name path).run general store reply).runOn start).1)
        (.ofResult "" (((Task.show name path).run general store reply).runOn start).1)
      rw [runOn_address_fst, runOn_show_fst]
      rcases hpair : (keyPairOf general store name path).runOn start with ⟨failure | pair, after⟩
      · exact .of_error failure
      · obtain ⟨key, hkey, rfl⟩ := returns_keyPairOf general store name path hpair
        exact .pair hkey

/-- The address that is funded is the one that is printed, if there is one. -/
theorem requests_run_fund (h : IsGeneralPart before) {rest words : List String}
    (haddress : Task.ofWords .address rest = .ok (.address name path))
    (hfund : Task.ofWords .fund words = .ok (.fund name path arguments)) (reply : Reply)
    (world : World) :
    ∃ sent, (run (before ++ Inquiry.fund.command.name :: words) reply world).2.requests =
        world.requests ++ sent ∧
      (sent = [] ∨ ∃ key : List UInt8,
        (run (before ++ Inquiry.address.command.name :: rest) reply world).1.Prints
          (KeyPair.ofSecretKey key).address ∧
        ∃ (friendbotUrl : String) (url : Url),
          Url.request friendbotUrl.toList "addr" (KeyPair.ofSecretKey key).address = .ok url ∧
            sent = ["GET " ++ url.text]) := by
  cases opening h reply world with
  | closed _ hrequests hends =>
    obtain ⟨-, log, hafter⟩ := run_of_ends (hends .fund words)
    exact ⟨[], by rw [hafter, hrequests, List.append_nil], .inl rfl⟩
  | @opened general store start hrequests hline hopen =>
    obtain ⟨-, log, hafter⟩ := run_of_task (hline .fund words) hopen hfund reply
    obtain ⟨sent, hsent, hnone | ⟨pair, hpair, hurl⟩⟩ :=
      requests_fund general store name path arguments reply start
    · exact ⟨sent, by rw [hafter, hsent, hrequests], .inl hnone⟩
    · refine ⟨sent, by rw [hafter, hsent, hrequests], .inr ?_⟩
      obtain ⟨after, hrun⟩ := exists_of_runOn_fst hpair
      obtain ⟨key, -, rfl⟩ := returns_keyPairOf general store name path hrun
      refine ⟨key, ?_, hurl⟩
      rw [(run_of_task (hline .address rest) hopen haddress reply).1, runOn_address_fst, hpair]
      exact Outcome.prints_iff.2 rfl

/-- What is asked about an identity changes no file and no entry. -/
theorem Inquiry.sameStores_taskOf (inquiry : Inquiry) (general : General) (store : Store)
    (reply : Reply) (found : Arguments × Option (IdentityName × Option Int)) :
    Keeps World.SameStores ((inquiry.taskOf found).run general store reply) := by
  obtain ⟨arguments, _ | ⟨name, path⟩⟩ := found
  · exact keeps_pure _
  · have hsubject : (inquiry.taskOf (arguments, some (name, path))).subject? = some name := by
      cases inquiry <;> rfl
    exact Task.keeps_of_subject? (fun entry _ => .allowsAsking entry) hsubject general store reply

theorem sameStores_run_inquiry (h : IsGeneralPart before) (inquiry : Inquiry) (words : List String)
    (reply : Reply) (world : World) :
    World.SameStores world (run (before ++ inquiry.command.name :: words) reply world).2 := by
  obtain ⟨last, log, hends, hafter⟩ :=
    ends_run (before ++ inquiry.command.name :: words) reply world
  have hsame : World.SameStores { world with memory := [] } last := by
    refine hends.keeps fun general command rest store task hline htask => ?_
    rw [readLine_append h] at hline
    obtain ⟨_ | chosen, -, hchosen⟩ := exists_of_map_ok hline
    · cases hchosen
    · obtain ⟨rfl, rfl, rfl⟩ : chosen = general ∧ inquiry.command = command ∧ words = rest := by
        simpa using hchosen
      rw [ofWords_command] at htask
      obtain ⟨found, -, rfl⟩ := exists_of_map_ok htask
      exact inquiry.sameStores_taskOf chosen store reply found
  rw [hafter]
  exact ⟨hsame.files, hsame.folder, rfl, hsame.keyring, hsame.replaceRefusal⟩

end CommandLine

open NamedKeys.CommandLine in
/-- The commands that print the address and the secret key of an identity, with the same general options and
the same words after them, print the two halves of one pair, or none of them prints any; a failure with the
code 1 is the same for both, and then nothing is printed.  The command that has the address funded, of the
same name at the same path, sends at most one request; it asks for the address that would be printed, and it
sends none where none is.  None of the three changes a file or an entry. -/
theorem inquiries_agree {before : List String} (hbefore : IsGeneralPart before) (reply : Reply)
    (world : World) :
    (∀ rest : List String,
      let address := (run (before ++ "address" :: rest) reply world).1
      let shown := (run (before ++ "show" :: rest) reply world).1
      ((∃ text, KeyText.IsTextOf .publicKey text ∧ address.Prints text) ↔
        ∃ secret, KeyText.IsTextOf .secretKey secret ∧ shown.Prints secret) ∧
      (∀ text secret, KeyText.IsTextOf .publicKey text → address.Prints text →
        shown.Prints secret →
        ∃ pair, KeyPair.ofKeyText secret = .ok pair ∧ pair.address = text) ∧
      (address.code = 1 ↔ shown.code = 1) ∧
      (address.code = 1 → shown = address ∧ address.output = "")) ∧
    (∀ (rest words : List String) (name : IdentityName) (path : Option Int) (arguments : Arguments),
      Task.ofWords .address rest = .ok (.address name path) →
      Task.ofWords .fund words = .ok (.fund name path arguments) →
      let address := (run (before ++ "address" :: rest) reply world).1
      ∃ sent, (run (before ++ "fund" :: words) reply world).2.requests = world.requests ++ sent ∧
        sent.length ≤ 1 ∧ (address.code ≠ 0 → sent = []) ∧
        ∀ line ∈ sent, ∃ text url, KeyText.IsTextOf .publicKey text ∧ address.Prints text ∧
          (∃ friendbotUrl : String, Url.request friendbotUrl.toList "addr" text = .ok url) ∧
          line = "GET " ++ url.text ∧
          url.parameters =
            [(Text.Utf8.encode "addr".toList, Text.Utf8.encode text.toList)]) ∧
    ∀ (inquiry : Inquiry) (words : List String),
      World.SameStores world (run (before ++ inquiry.command.name :: words) reply world).2 := by
  refine ⟨fun rest => ?_, ?_, fun inquiry words =>
    sameStores_run_inquiry hbefore inquiry words reply world⟩
  · have hagree := agree_run hbefore rest reply world
    exact ⟨hagree.prints_iff, fun text secret htext haddress hshown =>
      hagree.address_eq htext haddress hshown, hagree.fails.1, hagree.fails.2⟩
  · intro rest words name path arguments haddress hfund address
    obtain ⟨sent, hsent, rfl | ⟨key, hprints, friendbotUrl, url, hurl, rfl⟩⟩ :=
      requests_run_fund hbefore haddress hfund reply world
    · exact ⟨[], hsent, Nat.zero_le 1, fun _ => rfl, fun line hline => absurd hline (by simp)⟩
    · refine ⟨_, hsent, Nat.le_refl 1, fun hfails => absurd hprints.1 hfails, fun line hline => ?_⟩
      obtain rfl := List.mem_singleton.1 hline
      refine ⟨(KeyPair.ofSecretKey key).address, url, ?_, hprints, ⟨friendbotUrl, hurl⟩, rfl, ?_⟩
      · exact ⟨_, Curve.Ed25519.length_publicKey key, rfl⟩
      · exact Url.parameters_request (List.all_eq_true.1 rfl) hurl

open NamedKeys.CommandLine in
/-- The secret key of a file is printed, so that an address is; funding it sends no more than one request,
and no request is sent for a name that has no file. -/
theorem inquiries_agree_secretKey :
    let pair := KeyPair.ofSecretKey (List.replicate 32 0)
    let world : World := { World.bare with
      files := ⟨[(["store"], .folder), (["store", "identity"], .folder),
        (["store", "identity", "a.yaml"],
          .file (Text.Utf8.encode (Store.document (.secretKey pair.secret))))]⟩ }
    let run (words : List String) :=
      CommandLine.run (["--config-dir", "store"] ++ words) (.unreachable "") world
    (run ["show", "a"]).1.Prints pair.secret ∧
      (∃ text, KeyText.IsTextOf .publicKey text ∧ (run ["address", "a"]).1.Prints text) ∧
      (run ["fund", "a"]).2.requests.length ≤ 1 ∧ (run ["fund", "b"]).2.requests = [] := by
  intro pair world run
  have hlength : (List.replicate 32 (0 : UInt8)).length = 32 := List.length_replicate
  have hbefore : IsGeneralPart ["--config-dir", "store"] := ⟨[(.storeFolder, "store")], rfl⟩
  obtain ⟨hprinted, hfunded, -⟩ := inquiries_agree hbefore (.unreachable "") world
  have hshown : (run ["show", "a"]).1.Prints pair.secret := by
    let general : General := ⟨some "store", false, false, "system", []⟩
    let store : Store := ⟨⟨"", ["store"]⟩⟩
    let start : World := { world with log := [⟨.debug, "App started! "⟩] }
    have hread : (store.read ⟨"a", by decide⟩).runOn start =
        (.ok (.secretKey pair.secret), start) := by
      rw [Store.runOn_read_file rfl, Store.secretOfOctets_document]
      exact Secret.parse_encode hlength
    have hnone : keychainFor general (.secretKey pair.secret) = pure none := rfl
    have hpair : ((keyPairOf general store ⟨"a", by decide⟩ none).runOn start).1 = .ok pair := by
      rw [keyPairOf, runOn_bind_ok hread, hnone, pure_bind, runOn_keyPairOfSecret,
        pairOfSecret_secretKey]
      exact KeyPair.ofKeyText_secret hlength
    have hline : readLine world (["--config-dir", "store"] ++ ["show", "a"]) =
        .ok (some (general, .show, ["a"])) := rfl
    have hopen : (openStore general).runOn { world with memory := [] } = (.ok store, start) := rfl
    have htask : Task.ofWords .show ["a"] = .ok (.show ⟨"a", by decide⟩ none) := rfl
    have hrun := (run_of_task hline hopen htask (.unreachable "")).1
    rw [runOn_show_fst, hpair] at hrun
    exact hrun ▸ Outcome.prints_iff.2 rfl
  refine ⟨hshown, ?_, ?_, ?_⟩
  · exact (hprinted ["a"]).1.2 ⟨pair.secret, ⟨_, hlength, rfl⟩, hshown⟩
  · obtain ⟨sent, hsent, hatMost, -⟩ :=
      hfunded ["a"] ["a"] ⟨"a", by decide⟩ none ⟨[], ["a"]⟩ rfl rfl
    have hrequests : (run ["fund", "a"]).2.requests = sent := hsent.trans (List.nil_append sent)
    exact hrequests ▸ hatMost
  · obtain ⟨sent, hsent, -, hnone, -⟩ :=
      hfunded ["b"] ["b"] ⟨"b", by decide⟩ none ⟨[], ["b"]⟩ rfl rfl
    have hcode : (run ["address", "b"]).1.code = 1 := rfl
    have hrequests : (run ["fund", "b"]).2.requests = sent := hsent.trans (List.nil_append sent)
    rw [hrequests]
    exact hnone fun hzero => absurd (hcode.symm.trans hzero) (by decide)

end NamedKeys
