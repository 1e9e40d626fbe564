import NamedKeys.Proofs.Store.Typed
import NamedKeys.Proofs.Yaml.Listed

/-!
# Files with one key

A file is a secret only if all entries that it lists, through merge keys too, have one key, the word of the kind
of the secret, and then the last of the listed values is the text of the secret:

    read_one_key

So a file with two keys is refused, and one with the same key twice is read as the last of its secrets.
-/

namespace NamedKeys.Store

/-- The octets of a file write a document. -/
def WritesDocument (octets : List UInt8) (document : Yaml.Document) : Prop :=
  ∃ text, Text.Utf8.decode? octets = some text ∧
    Yaml.Document.ofTokens (Yaml.tokens (Text.unifyLineEnds text)) = .ok (some document)

/-- A document lists one key, the word of the kind of a secret, and a value that is the text of the secret,
the last of the document's own if it has any. -/
structure ListsSecret (document : Yaml.Document) (secret : Secret) : Prop where
  root : ∃ entries, document.graph.node? document.root = some (.mapping .mapping entries)
  keys : ∀ entry, document.graph.Lists document.root entry →
    document.graph.Writes entry.1 secret.kind.word.toList
  value : ∃ entry text, document.graph.Lists document.root entry ∧
    document.graph.Writes entry.2 text ∧ Secret.parse (String.ofList text) = .ok secret ∧
    ∀ last ∈ (document.graph.own document.root).getLast?, entry = last

variable {file : String} {octets : List UInt8} {document : Yaml.Document}

/-- A file that is read as a secret writes a document whose value is the entry of the secret. -/
theorem exists_document_of_secretOfOctets {secret : Secret} (h : secretOfOctets file octets = .ok secret) :
    ∃ document text, WritesDocument octets document ∧
      document.value = .ok (.map [(.text secret.kind.word.toList, .atom (.text text))]) ∧
      Secret.parse (String.ofList text) = .ok secret := by
  unfold secretOfOctets at h
  split at h
  · cases h
  · next text htext =>
    split at h
    · next value hload =>
      obtain ⟨cs, rfl, hparse⟩ := secretOfValue_ok_iff.1 h
      obtain ⟨found?, hfound, hvalue⟩ := exists_of_bind_ok hload
      cases found? with
      | none => cases Except.ok.inj hvalue
      | some document => exact ⟨document, cs, ⟨text, htext, hfound⟩, hvalue, hparse⟩
    · cases h
    · cases h

/-- A document whose value is the entry of a secret is read as the secret. -/
theorem secretOfOctets_of_document {secret : Secret} {text : List Char}
    (hdocument : WritesDocument octets document)
    (hvalue : document.value = .ok (.map [(.text secret.kind.word.toList, .atom (.text text))]))
    (hparse : Secret.parse (String.ofList text) = .ok secret) :
    secretOfOctets file octets = .ok secret := by
  obtain ⟨cs, hcs, hfound⟩ := hdocument
  have hload : Yaml.load (Text.unifyLineEnds cs) =
      .ok (.map [(.text secret.kind.word.toList, .atom (.text text))]) := by
    rw [Yaml.load, hfound]
    exact hvalue
  rw [secretOfOctets_of_load hcs hload]
  exact secretOfValue_ok_iff.2 ⟨text, rfl, hparse⟩

theorem WritesDocument.unique {other : Yaml.Document} (h : WritesDocument octets document)
    (h' : WritesDocument octets other) : document = other := by
  obtain ⟨text, htext, hfound⟩ := h
  obtain ⟨text', htext', hfound'⟩ := h'
  obtain rfl := Option.some.inj (htext.symm.trans htext')
  rw [hfound] at hfound'
  exact Option.some.inj (Except.ok.inj hfound')

/-- A file that is read as a secret writes a document that lists one key and the text of the secret. -/
theorem listsSecret_of_secretOfOctets {secret : Secret} (h : secretOfOctets file octets = .ok secret) :
    ∃ document, WritesDocument octets document ∧ ListsSecret document secret := by
  obtain ⟨document, text, hdocument, hvalue, hparse⟩ := exists_document_of_secretOfOctets h
  obtain ⟨hroot, hkeys, entry, hentry, hwrites, hlast⟩ := Yaml.Document.lists_of_value hvalue
  exact ⟨document, hdocument, hroot, hkeys, entry, text, hentry, hwrites, hparse, hlast⟩

/-- A file is read as a secret only if all entries that it lists have the word of its kind for a key, and it
holds the last of their values; a file that lists two entries without a common key is refused; and a
file of texts with one key is read as the last of its values, however many come before. -/
theorem read_one_key {store : Store} {name : IdentityName} {world : World} {octets : List UInt8}
    (hfile : world.files.entryAt world.folder (store.file name) = .ok (some (.file octets))) :
    (∀ secret after, (store.read name).runOn world = (.ok secret, after) →
      ∃ document, WritesDocument octets document ∧ ListsSecret document secret) ∧
    ∀ document, WritesDocument octets document →
      (∀ first second, document.graph.Lists document.root first →
        document.graph.Lists document.root second →
        (∀ word, document.graph.Writes first.1 word → ¬ document.graph.Writes second.1 word) →
        ∃ failure, (store.read name).runOn world = (.error failure, world) ∧ Flaw octets failure) ∧
      ∀ entries last text secret,
        document.graph.node? document.root = some (.mapping .mapping entries) →
        (∀ entry ∈ entries,
          document.graph.node? entry.1 = some (.scalar .text secret.kind.word.toList)) →
        (∀ entry ∈ entries, ∃ text, document.graph.node? entry.2 = some (.scalar .text text)) →
        last ∈ entries.getLast? → document.graph.node? last.2 = some (.scalar .text text) →
        Secret.parse (String.ofList text) = .ok secret →
          (store.read name).runOn world = (.ok secret, world) := by
  rw [runOn_read_file hfile]
  refine ⟨fun secret after h => listsSecret_of_secretOfOctets (Prod.mk.inj h).1, ?_⟩
  intro document hdocument
  refine ⟨fun first second hfirst hsecond hkeys => ?_, ?_⟩
  · cases hread : secretOfOctets (store.file name).text octets with
    | error failure => exact ⟨failure, rfl, secretOfOctets_error hread⟩
    | ok secret =>
      obtain ⟨other, hother, hlists⟩ := listsSecret_of_secretOfOctets hread
      obtain rfl := hdocument.unique hother
      exact absurd (hlists.keys second hsecond) (hkeys _ (hlists.keys first hfirst))
  · intro entries last text secret hroot hkeys hvalues hlast htext hparse
    have hvalue := Yaml.Document.value_of_texts hroot hkeys hvalues hlast htext
    rw [secretOfOctets_of_document hdocument hvalue hparse]

/-- Of two entries with one key the second is read. -/
theorem read_one_key_twice :
    let content := "keychain: a\nkeychain: keychain:radium226.identities-a"
    let world : World := { World.bare with
      files := ⟨[(["store"], .folder), (["store", "identity"], .folder),
        (["store", "identity", "a.yaml"], .file (Text.Utf8.encode content.toList))]⟩ }
    ((⟨⟨"", ["store"]⟩⟩ : Store).read ⟨"a", by decide⟩).runOn world =
      (.ok (.keychain "keychain:radium226.identities-a"), world) := by
  intro content world
  have hfile : world.files.entryAt world.folder
      ((⟨⟨"", ["store"]⟩⟩ : Store).file ⟨"a", by decide⟩) =
      .ok (some (.file (Text.Utf8.encode content.toList))) := rfl
  have htext : Text.Utf8.decode? (Text.Utf8.encode content.toList) = some content.toList :=
    Text.Utf8.decode?_encode (List.all_iff_forall_prop.1 (by decide))
  let word := Yaml.Token.scalar "keychain".toList true
  let entry := "keychain:radium226.identities-a".toList
  let document : Yaml.Document := ⟨⟨[(0, .mapping .mapping [(1, 2), (3, 4)]), (4, .scalar .text entry),
    (3, .scalar .text "keychain".toList), (2, .scalar .text ['a']),
    (1, .scalar .text "keychain".toList)]⟩, 0⟩
  have htokens : Yaml.tokens (Text.unifyLineEnds content.toList) = [.blockMappingStart, .key, word,
      .value, .scalar ['a'] true, .key, word, .value, .scalar entry true, .blockEnd] := by decide +kernel
  have hdocument : WritesDocument (Text.Utf8.encode content.toList) document := by
    refine ⟨content.toList, htext, ?_⟩
    rw [htokens]
    decide +kernel
  refine ((read_one_key hfile).2 document hdocument).2 [(1, 2), (3, 4)] (3, 4) entry _ rfl ?_ ?_ rfl rfl ?_
  · decide
  · exact List.forall_mem_cons.2 ⟨⟨['a'], rfl⟩, List.forall_mem_singleton.2 ⟨entry, rfl⟩⟩
  · decide

end NamedKeys.Store
