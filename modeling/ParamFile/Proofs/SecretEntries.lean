import ParamFile.Proofs.Decrypting
import ParamFile.Proofs.EntryFields
import ParamFile.Proofs.References
import ParamFile.Proofs.SecretFields

/-!
# Secrets that encrypting writes

Whether a document can be read after values were put into it depends on what stands beside ciphertext and
key under each name, its `keptFields`: the entries that are given no value are as they were, and a sealed
entry describes a parameter exactly if these fields say no other kind and can be read
(`described_sealed_ok`, and `Loads.sealed_ok` for the document).

If it can be read, there is a secret parameter under each name that is given (`Loads.sealed_parameter`),
unless another key which reads the same stands behind it (`Shadowed`). A ciphertext is plain, and so is a
key in full form, so every new client reads the value of that parameter that was given last
(`Session.encrypt_secures`).
-/

namespace ParamFile

open ParamFile.Action Yaml

/-! ## Texts without references -/

theorem Cipher.isPlain_sealed (plaintext keyId : String) :
    IsPlain (Cipher.sealed plaintext keyId).toList := by
  have symbols : ∀ v < 64, Char.ofNat (Text.Base64.symbol v).toNat ≠ '$' := by decide
  apply isPlain_of_notMem
  rw [Cipher.sealed, Cipher.asciiText, String.toList_ofList, List.mem_map]
  rintro ⟨b, hb, same⟩
  rcases Text.Base64.mem_encode hb with rfl | ⟨v, hv, rfl⟩
  · exact absurd same (by decide)
  · exact symbols v hv same

/-- The parts of a key id in full form stand between colons, which no reference holds. -/
theorem Client.isPlain_qualifiedKey {s : Store} (region : IsPlain s.region.toList)
    (account : IsPlain s.account.toList) {keyId : String} (plain : IsPlain keyId.toList) :
    IsPlain (Client.qualifiedKey s keyId).toList := by
  have colon {a b : String} (ha : IsPlain a.toList) (hb : IsPlain b.toList) :
      IsPlain (a ++ ":" ++ b).toList := by
    rw [String.toList_append, String.toList_append, List.append_assoc]
    exact ha.append hb (by decide) (by decide)
  have start : IsPlain ("arn:aws:kms:" ++ s.region).toList := by
    have service : IsPlain "arn:aws:kms".toList := isPlain_of_notMem (by decide)
    have whole : "arn:aws:kms:".toList = "arn:aws:kms".toList ++ [':'] := by decide
    rw [String.toList_append, whole, List.append_assoc]
    exact service.append region (by decide) (by decide)
  rw [Client.qualifiedKey]
  split
  · exact plain
  · exact colon (colon start account) plain

theorem LoadOptions.resolve_template (o : LoadOptions) {text : String} (plain : IsPlain text.toList)
    (b : Bindings) : (o.template text).resolve b = pure text := by
  rw [LoadOptions.template]
  split
  · exact Template.resolve_literal b text
  · exact plain.resolve b

/-! ## Parameters that hold a ciphertext -/

namespace Parameter

variable {o : LoadOptions} {p : Parameter} {keyId : String} (b : Bindings)

theorem readKeyId_of_plain (key : p.keyId = some (o.template keyId)) (plain : IsPlain keyId.toList) :
    p.readKeyId b = pure (some keyId) := by
  rw [readKeyId, key, resolveOption, o.resolve_template plain b]
  rfl

theorem readValue_of_sealed {plaintext : String} (encrypted : p.isEncrypted = true)
    (key : p.keyId = some (o.template keyId)) (plain : IsPlain keyId.toList)
    (content : p.content = some (.single (o.template (Cipher.sealed plaintext keyId)))) :
    p.readValue b = some <$> Client.decrypt (Cipher.sealed plaintext keyId) := by
  have raw : p.readRaw b = pure (some (Cipher.sealed plaintext keyId)) := by
    rw [readRaw, content]
    dsimp only
    rw [o.resolve_template (Cipher.isPlain_sealed plaintext keyId) b]
    rfl
  rw [readValue, raw, pure_bind]
  dsimp only
  rw [if_pos encrypted, readKeyId_of_plain b key plain, pure_bind]

end Parameter

/-! ## Documents with sealed entries -/

namespace Document

variable {o : LoadOptions} {common own : Mapping} {name : String}

theorem nodup_insert {m : Mapping} (nodup : (m.map (·.1)).Nodup) (field : String) (v : Value) :
    ((m.insert field v).map (·.1)).Nodup := by
  rw [keys_insert]
  split
  · exact nodup
  · rename_i absent
    rw [isSome_get?] at absent
    rw [← List.concat_eq_append]
    exact nodup.concat absent

/-- Ciphertext and key are read first, and the other fields as they were without them. -/
theorem get?_fragment_sealed (nodup : (own.map (·.1)).Nodup) (name : String) (common : Mapping)
    (ciphertext keyId field : String) :
    (fragment name common (sealedFields ciphertext keyId own)).get? field =
      if field = keyField then some (.string keyId)
      else if field = ciphertextField then some (.string ciphertext)
      else (fragment name common own).get? field := by
  have nodup' : ((sealedFields ciphertext keyId own).map (·.1)).Nodup :=
    nodup_insert (nodup_insert nodup _ _) _ _
  rw [get?_fragment, get?_reverse nodup', get?_sealedFields, get?_fragment, get?_reverse nodup]
  split
  · rfl
  · split <;> rfl

/-- The fields with which a name is left beside ciphertext and key: its own ones if it has a mapping. -/
def keptFields (common m : Mapping) (name : String) : Mapping :=
  fragment name common (ownFields ((m.get? name).getD .null))

open Parameter in
/-- A sealed entry describes a parameter exactly if the fields that are left say no other kind and can be
read. -/
theorem described_sealed_ok (nodup : (own.map (·.1)).Nodup) (ciphertext keyId : String) :
    (∃ p, described o common name (.map (sealedFields ciphertext keyId own)) = .ok p) ↔
      SaysSecret (fragment name common own) ∧ Presentable (fragment name common own) := by
  have read := get?_fragment_sealed nodup name common ciphertext keyId
  have kept (field : String) (notKey : field ≠ keyField) (notCiphertext : field ≠ ciphertextField) :
      (fragment name common (sealedFields ciphertext keyId own)).get? field =
        (fragment name common own).get? field := by
    rw [read, if_neg notKey, if_neg notCiphertext]
  have fields : described o common name (.map (sealedFields ciphertext keyId own)) =
      ofFields o (fragment name common (sealedFields ciphertext keyId own)) := rfl
  rw [fields, ofFields_sealed_ok (read "EncryptedValue") (read "KeyId"),
    saysSecret_congr (kept "Type" (by decide) (by decide)), presentable_congr]
  intro field other
  refine kept field ?_ ?_
  · rintro rfl
    exact other (by decide)
  · rintro rfl
    exact other (by decide)

/-- The entry of a name can be read, so it is no mapping below a tag, and what is left of it beside
ciphertext and key can be read, too. -/
theorem Readable.kept {v : Value} (h : Readable o common (.string name, v))
    (notReserved : isReserved name = false) :
    ¬ IsTaggedMapping v ∧ Parameter.Presentable (fragment name common (ownFields v)) := by
  obtain ⟨fields, p, own, loaded⟩ := h.described rfl notReserved
  have readable := Parameter.presentable_of_loaded loaded
  -- a bare entry stands for two fields that do not outlast it, and neither is among those that are read
  have bare (kind : Kind) (field : String) (other : field ∉ Parameter.secretFields) :
      (fragment name common []).get? field =
        (fragment name common [(.string "Type", .string kind.text), (.string "Value", v)]).get? field := by
    simp only [Parameter.secretFields, List.mem_cons, List.not_mem_nil, or_false, not_or] at other
    simp [get?_fragment, Mapping.get?, Ne.symm other.1, Ne.symm other.2.2.2.2]
  cases v with
  | map entries =>
    cases own
    exact ⟨fun tagged => tagged.2 _ rfl, readable⟩
  | tagged tag v => cases own
  | null =>
    cases own
    exact ⟨fun tagged => (by cases tagged.1), readable⟩
  | _ =>
    cases own
    exact ⟨fun tagged => (by cases tagged.1), readable.congr (bare _)⟩

/-! ### The entry with the last word -/

/-- Behind the name stands a key that reads the same, which is then a number or a truth value. -/
def Shadowed (keys : List Value) (name : String) : Prop :=
  ∃ k : Value, k.scalarText? = some name ∧ [.string name, k].Sublist keys

theorem lastEntry_eq_none {m : Mapping} (h : ∀ e ∈ m, e.1.scalarText? ≠ some name) :
    lastEntry m name = none := by
  induction m with
  | nil => rfl
  | cons e rest ih =>
    rw [lastEntry, ih fun x hx => h x (List.mem_cons_of_mem _ hx), if_neg (h e List.mem_cons_self)]
    rfl

/-- A name that is not shadowed has the last word itself. -/
theorem lastEntry_of_get? {m : Mapping} {v : Value} (there : m.get? name = some v)
    (clear : ¬ Shadowed (m.map (·.1)) name) : lastEntry m name = some v := by
  induction m with
  | nil => cases there
  | cons e rest ih =>
    obtain ⟨k, w⟩ := e
    by_cases here : k = .string name
    · subst here
      have first : w = v := by simpa [Mapping.get?] using there
      have behind : lastEntry rest name = none := by
        apply lastEntry_eq_none
        intro x hx reads
        exact clear ⟨x.1, reads, .cons_cons _ (List.singleton_sublist.2 (List.mem_map_of_mem hx))⟩
      rw [lastEntry, behind, Value.scalarText?, if_pos rfl, first]
      rfl
    · have later : Mapping.get? rest name = some v := by
        rw [← there]
        cases k <;> simp_all [Mapping.get?]
      have clear' : ¬ Shadowed (rest.map (·.1)) name := by
        rintro ⟨x, reads, sub⟩
        exact clear ⟨x, reads, sub.cons _⟩
      rw [lastEntry, ih later clear']
      rfl

/-- New names shadow nothing. -/
theorem Sealing.shadowed {keyId : String} {values : List (String × String)} {m m' : Mapping}
    (h : Sealing keyId values m m') (nodup : (m'.map (·.1)).Nodup)
    (shadowed : Shadowed (m'.map (·.1)) name) : Shadowed (m.map (·.1)) name := by
  obtain ⟨k, reads, sub⟩ := shadowed
  -- no key is there twice, so the one behind the name is no text
  have notName : k ≠ .string name := by
    rintro rfl
    exact List.nodup_iff_sublist.1 nodup _ sub
  rw [h.order] at sub
  obtain ⟨old, new, parts, inOld, inNew⟩ := List.sublist_append_iff.1 sub
  rcases List.eq_nil_or_concat new with rfl | ⟨front, last, rfl⟩
  · rw [List.append_nil] at parts
    exact ⟨k, reads, parts ▸ inOld⟩
  · -- among the new names, which are texts, it cannot be
    have behind : last = k := by
      have ends := congrArg List.getLast? parts
      rw [List.concat_eq_append, ← List.append_assoc, List.getLast?_concat] at ends
      exact (Option.some.inj ends).symm
    have mem : last ∈ front.concat last := by simp
    obtain ⟨other, -, text⟩ := List.mem_map.1 (inNew.subset mem)
    rw [← behind, ← text] at reads notName
    exact absurd (congrArg Value.string (Option.some.inj reads)) notName

/-! ### Documents as a whole -/

theorem isOk_ofMapping {root : Mapping} (shared : commonFields root = .ok common) :
    (∃ d, ofMapping o root = .ok d) ↔
      (∃ inputs, Input.ofSection ((root.get? inputKey).getD .null) = .ok inputs) ∧
      (∃ paths, flushSection root = .ok paths) ∧ ∀ e ∈ root, Readable o common e := by
  constructor
  · rintro ⟨d, h⟩
    obtain ⟨inputs, ⟨common', shared', entries⟩, paths⟩ := ofMapping_ok h
    cases shared.symm.trans shared'
    exact ⟨⟨_, inputs⟩, ⟨_, paths⟩, (addEntries_ok .empty).1 ⟨_, entries⟩⟩
  · rintro ⟨⟨inputs, hinputs⟩, ⟨paths, hpaths⟩, readable⟩
    obtain ⟨parameters, entries⟩ : ∃ n, addEntries o common root .empty = .ok n :=
      (addEntries_ok .empty).2 readable
    refine ⟨⟨inputs, parameters, paths⟩, ?_⟩
    rw [ofMapping, hinputs, ok_bind, shared, ok_bind, hpaths, ok_bind, entries]
    rfl

section
variable {keyId : String} {values : List (String × String)} {m : Mapping}
  (names : ∀ name ∈ values.map (·.1), isReserved name = false)
include names

theorem get?_sealedAll_reserved {reserved : String} (h : isReserved reserved = true) :
    (sealedAll keyId values m).get? reserved = m.get? reserved := by
  have notGiven : lastGiven values reserved = none := by
    rw [← Option.not_isSome_iff_eq_none, isSome_lastGiven]
    intro given
    rw [names _ given] at h
    cases h
  rw [get?_sealedAll, notGiven]

theorem commonFields_sealedAll : commonFields (sealedAll keyId values m) = commonFields m := by
  rw [commonFields, get?_sealedAll_reserved names (by decide), commonFields]

theorem flushSection_sealedAll : flushSection (sealedAll keyId values m) = flushSection m := by
  rw [flushSection, get?_sealedAll_reserved names (by decide), flushSection]

end

/-- The mapping was read from a text, and it is a document with these shared fields. -/
structure Loads (o : LoadOptions) (common m : Mapping) : Prop where
  distinct : Value.Distinct (.map m)
  shared : commonFields m = .ok common
  isOk : ∃ d, ofMapping o m = .ok d

section
variable {keyId : String} {values : List (String × String)} {m : Mapping} (h : Loads o common m)
include h

theorem Loads.readable : ∀ e ∈ m, Readable o common e :=
  ((isOk_ofMapping h.shared).1 h.isOk).2.2

theorem Loads.nodup_ownFields (name : String) :
    ((ownFields ((m.get? name).getD .null)).map (·.1)).Nodup := by
  cases there : m.get? name with
  | none => exact List.nodup_nil
  | some v =>
    have distinct := h.distinct.of_mem (mem_of_get? there)
    cases v with
    | map own => exact distinct.nodup
    | _ => exact List.nodup_nil

theorem Loads.not_tagged (notReserved : isReserved name = false) :
    ¬ IsTaggedMapping ((m.get? name).getD .null) := by
  cases there : m.get? name with
  | none => exact fun tagged => (by cases tagged.1)
  | some v => exact ((h.readable _ (mem_of_get? there)).kept notReserved).1

theorem Loads.presentable (notReserved : isReserved name = false) {v : Value}
    (there : m.get? name = some v) : Parameter.Presentable (keptFields common m name) := by
  rw [keptFields, there]
  exact ((h.readable _ (mem_of_get? there)).kept notReserved).2

open Parameter in
/-- A sealed entry describes a parameter exactly if no other kind is said, and, if it is new, the shared
fields can be read. -/
theorem Loads.described_ok (notReserved : isReserved name = false) (ciphertext : String) :
    (∃ p, described o common name (.map (sealedFields ciphertext keyId
      (ownFields ((m.get? name).getD .null)))) = .ok p) ↔
      SaysSecret (keptFields common m name) ∧
        (m.get? name = none → Presentable (keptFields common m name)) := by
  rw [described_sealed_ok (h.nodup_ownFields name), ← keptFields]
  refine and_congr_right fun _ => ⟨fun readable _ => readable, fun readable => ?_⟩
  cases there : m.get? name with
  | none => exact readable there
  | some v => exact h.presentable notReserved there

/-- Under a given name stands its sealed entry. -/
theorem Loads.get?_sealedAll (keyId : String) (notReserved : isReserved name = false) {plaintext : String}
    (last : lastGiven values name = some plaintext) :
    (sealedAll keyId values m).get? name = some (.map (sealedFields (Cipher.sealed plaintext keyId)
      keyId (ownFields ((m.get? name).getD .null)))) := by
  rw [Document.get?_sealedAll, last]
  exact congrArg some (sealEntry_eq _ _ (h.not_tagged notReserved))

variable (names : ∀ name ∈ values.map (·.1), isReserved name = false)
include names

open Parameter in
/-- The document can be read with the values put into it exactly if under each given name no other kind is
said, and the shared fields can be read under each that is new. -/
theorem Loads.sealed_ok :
    (∃ d, ofMapping o (sealedAll keyId values m) = .ok d) ↔
      ∀ name ∈ values.map (·.1), SaysSecret (keptFields common m name) ∧
        (m.get? name = none → Presentable (keptFields common m name)) := by
  have shared : commonFields (sealedAll keyId values m) = .ok common :=
    (commonFields_sealedAll names).trans h.shared
  have sealing := sealing_sealedAll keyId values m
  obtain ⟨inputs, paths, readable⟩ := (isOk_ofMapping h.shared).1 h.isOk
  rw [isOk_ofMapping shared, flushSection_sealedAll names,
    get?_sealedAll_reserved names (by decide)]
  constructor
  · rintro ⟨-, -, readable'⟩ name hn
    obtain ⟨plaintext, last⟩ := Option.isSome_iff_exists.1 (isSome_lastGiven.2 hn)
    have entry := mem_of_get? (h.get?_sealedAll keyId (names name hn) last)
    obtain ⟨_, same, describes⟩ := readable' _ entry
    cases same
    exact (h.described_ok (names name hn) _).1 (describes (names name hn))
  · intro kept
    refine ⟨inputs, paths, ?_⟩
    rintro ⟨k, v⟩ entry
    by_cases given : k ∈ (values.map (·.1)).map Value.string
    · obtain ⟨name, hn, rfl⟩ := List.mem_map.1 given
      obtain ⟨plaintext, last⟩ := Option.isSome_iff_exists.1 (isSome_lastGiven.2 hn)
      have there := get?_of_mem (sealing.nodup h.distinct.nodup) entry
      rw [h.get?_sealedAll keyId (names name hn) last] at there
      cases there
      exact ⟨name, rfl, fun notReserved => (h.described_ok notReserved _).2 (kept name hn)⟩
    · refine readable _ (Mapping.mem_besides.1 (?_ : (k, v) ∈ m.besides (values.map (·.1)))).1
      rw [← sealing.others]
      exact Mapping.mem_besides.2 ⟨entry, given⟩

/-- Where no other key has the last word, the document has a secret parameter under a given name, with
the ciphertext as its value. It is called as it is given, unless a field says another name. -/
theorem Loads.sealed_parameter {d : Document} (parsed : ofMapping o (sealedAll keyId values m) = .ok d)
    {plaintext : String} (last : lastGiven values name = some plaintext)
    (clear : ¬ Shadowed (m.map (·.1)) name) :
    ∃ p, d.parameters.get? name = some p ∧
      ((keptFields common m name).get? "Name" = some (.string name) → p.name = { text := name }) ∧
      p.kind = .secureString ∧ p.isEncrypted = true ∧ p.keyId = some (o.template keyId) ∧
      p.content = some (.single (o.template (Cipher.sealed plaintext keyId))) := by
  have notReserved := names name (isSome_lastGiven.1 (by rw [last]; rfl))
  have sealing := sealing_sealedAll keyId values m
  have entry := lastEntry_of_get? (h.get?_sealedAll keyId notReserved last) fun shadowed =>
    clear (sealing.shadowed (sealing.nodup h.distinct.nodup) shadowed)
  obtain ⟨common', shared, -, described⟩ := entries_of_loaded parsed
  obtain rfl : common' = common := by
    rw [commonFields_sealedAll names, h.shared] at shared
    exact (Except.ok.inj shared).symm
  obtain ⟨p, loaded, listed⟩ := described name _ notReserved entry
  have read := get?_fragment_sealed (h.nodup_ownFields name) name common'
    (Cipher.sealed plaintext keyId) keyId
  refine ⟨p, listed, fun named => ?_, ?_⟩
  · exact Parameter.name_of_loaded loaded ((read "Name").trans named)
  · exact Parameter.ofFields_sealed (read "EncryptedValue") (read "KeyId") loaded

end

end Document

/-! ## The command -/

/-- Neither a separator nor a reference stands in the text. -/
structure IsClear (text : String) : Prop where
  free : Cipher.separator ∉ text.toList
  plain : IsPlain text.toList

theorem Client.isClear_qualifiedKey {s : Store} (region : IsClear s.region) (account : IsClear s.account)
    {keyId : String} (clear : IsClear keyId) : IsClear (Client.qualifiedKey s keyId) :=
  ⟨Client.separator_notMem_qualifiedKey region.free account.free clear.free,
    Client.isPlain_qualifiedKey region.plain account.plain clear.plain⟩

/-- The parameter is secret, encrypted with this key, and every new client reads this value of it. -/
structure Parameter.Secures (keyId plaintext : String) (p : Parameter) : Prop where
  kind : p.kind = .secureString
  isEncrypted : p.isEncrypted = true
  keyId : ∀ b, p.readKeyId b = pure (some keyId)
  value : ∀ b (c : Client), c.Blank → .decrypt ∉ c.backend.failing →
    ((p.readValue b).runOn c).1 = .ok (some plaintext)

theorem Parameter.secures_of_sealed {o : LoadOptions} {p : Parameter} {keyId plaintext : String}
    (clear : IsClear keyId) (kind : p.kind = .secureString) (encrypted : p.isEncrypted = true)
    (key : p.keyId = some (o.template keyId))
    (content : p.content = some (.single (o.template (Cipher.sealed plaintext keyId)))) :
    p.Secures keyId plaintext where
  kind
  isEncrypted := encrypted
  keyId b := readKeyId_of_plain b key clear.plain
  value b c blank working := by
    have opens := Client.opens_sealed clear.free plaintext c blank working
    rw [readValue_of_sealed b encrypted key clear.plain content, runOn_map]
    generalize (Client.decrypt (Cipher.sealed plaintext keyId)).runOn c = run at opens ⊢
    obtain ⟨r, t⟩ := run
    cases opens
    rfl

namespace Command.Session

open Document in
/-- What encrypting leaves can be read again exactly if under each given name no other kind is said, by the
entry or by the shared fields, and, for a name that is new, the shared fields can be read. Each given name
on which no other key has the last word is then a secret parameter with the key in full form, and every
new client reads the value of it that is given last. A value in the clear is left in an entry exactly if it
is a field of it, not if it is the entry. -/
theorem encrypt_secures {st : Store} {s t : Session} (recalls : s.client.Recalls st)
    (region : IsClear st.region) (account : IsClear st.account) {file keyId : String}
    (clear : IsClear keyId) {arguments : List String} {asking echo : Bool}
    (ran : (encrypt file keyId arguments asking echo).runOn s = (.ok (), t)) {m : Mapping}
    (held : s.world.files.HoldsEntries file m) {values : List (String × String)}
    (given : Provides asking arguments s.world.lines values)
    (names : ∀ name ∈ values.map (·.1), isReserved name = false) {o : LoadOptions} {d : Document}
    (parsed : ofTree o (.map m) = .ok d) :
    let key := Client.qualifiedKey st keyId
    let m' := sealedAll key values m
    t.world.files.read file = .ok (Value.map m').toText ∧
    ∃ common, commonFields m = .ok common ∧
      ((∃ d', ofTree o (.map m') = .ok d') ↔ ∀ name ∈ values.map (·.1),
        Parameter.SaysSecret (keptFields common m name) ∧
          (m.get? name = none → Parameter.Presentable (keptFields common m name))) ∧
      ∀ name plaintext, lastGiven values name = some plaintext →
        (∃ fields : Mapping, m'.get? name = some (.map fields) ∧
          fields.get? "Value" = (ownFields ((m.get? name).getD .null)).get? "Value") ∧
        ∀ d', ofTree o (.map m') = .ok d' → ¬ Shadowed (m.map (·.1)) name →
          ∃ p, d'.parameters.get? name = some p ∧ p.Secures key plaintext ∧
            ((keptFields common m name).get? "Name" = some (.string name) → IsPlain name.toList →
              ∀ b, p.readName b = pure name) := by
  intro key m'
  have keyClear : IsClear key := Client.isClear_qualifiedKey region account clear
  obtain ⟨-, ⟨common, shared, -⟩, -⟩ := ofMapping_ok parsed
  have loads : Loads o common m := ⟨held.distinct, shared, d, parsed⟩
  have read : t.world.files.read file = .ok (Value.map m').toText :=
    Files.read_write (written_of_encrypt recalls keyClear.free held given ran)
  refine ⟨read, common, shared, loads.sealed_ok names, fun name plaintext last => ⟨?_, ?_⟩⟩
  · have notReserved := names name (isSome_lastGiven.1 (by rw [last]; rfl))
    exact ⟨_, loads.get?_sealedAll key notReserved last, get?_sealedFields _ _ _ "Value"⟩
  · intro d' parsed' unshadowed
    obtain ⟨p, listed, named, kind, encrypted, keyed, content⟩ :=
      loads.sealed_parameter names parsed' last unshadowed
    refine ⟨p, listed, Parameter.secures_of_sealed keyClear kind encrypted keyed content, ?_⟩
    intro own plain b
    rw [Parameter.readName, named own]
    exact plain.resolve b

/-- A session with a bare entry in a file. -/
def withBareEntry : Session := ⟨{ files := .ofList [("a.yaml", "/a: old\n")] }, {}⟩

open Document in
/-- A bare entry becomes a secret, and so does a new one. -/
theorem encrypt_secures_bare :
    let m' := sealedAll "arn:k" [("/a", "1"), ("/n", "2"), ("/a", "4")] [(.string "/a", .string "old")]
    ∃ t d, (encrypt "a.yaml" "arn:k" ["/a", "1", "/n", "2", "/a", "4"] false false).runOn withBareEntry =
        (.ok (), t) ∧
      t.world.files.read "a.yaml" = .ok (Value.map m').toText ∧ ofTree {} (.map m') = .ok d ∧
      (∃ p, d.parameters.get? "/a" = some p ∧ p.Secures "arn:k" "4") ∧
      ∃ p, d.parameters.get? "/n" = some p ∧ p.Secures "arn:k" "2" := by
  intro m'
  have ok : ((encrypt "a.yaml" "arn:k" ["/a", "1", "/n", "2", "/a", "4"] false false).runOn
      withBareEntry).1 = .ok () := by decide +kernel
  have read : withBareEntry.world.files.read "a.yaml" = .ok "/a: old\n" := by decide +kernel
  have held : withBareEntry.world.files.HoldsEntries "a.yaml" [(.string "/a", .string "old")] :=
    .mapping read (by decide +kernel)
  have given : Provides false ["/a", "1", "/n", "2", "/a", "4"] withBareEntry.world.lines
    [("/a", "1"), ("/n", "2"), ("/a", "4")] :=
    .written [("/a", "1"), ("/n", "2"), ("/a", "4")] _
  have blank : Client.Blank {} := ⟨rfl, rfl, rfl, rfl⟩
  have clear {text : String} (free : Cipher.separator ∉ text.toList) (dollar : '$' ∉ text.toList) :
      IsClear text := ⟨free, isPlain_of_notMem dollar⟩
  have loads (m : Mapping) (h : (ofTree {} (.map m)).map (fun _ => ()) = .ok ()) :
      ∃ d, ofTree {} (.map m) = .ok d := by
    obtain ⟨d, parsed, -⟩ := ok_of_map h
    exact ⟨d, parsed⟩
  obtain ⟨d, parsed⟩ := loads [(.string "/a", .string "old")] (by decide +kernel)
  obtain ⟨d', parsed'⟩ := loads m' (by decide +kernel)
  rcases ran : (encrypt "a.yaml" "arn:k" ["/a", "1", "/n", "2", "/a", "4"] false false).runOn
    withBareEntry with ⟨r, t⟩
  obtain rfl : r = .ok () := by
    rw [ran] at ok
    exact ok
  obtain ⟨written, common, -, -, secures⟩ := encrypt_secures (s := withBareEntry) blank.recalls
    (clear (by decide) (by decide)) (clear (by decide) (by decide)) (clear (by decide) (by decide))
    ran held given (by decide) parsed
  have unshadowed (name : String) : ¬ Shadowed [Value.string "/a"] name := by
    rintro ⟨k, -, sub⟩
    have short := sub.length_le
    simp at short
  obtain ⟨p, there, secure, -⟩ := (secures "/a" "4" (by decide)).2 d' parsed' (unshadowed _)
  obtain ⟨q, there', secure', -⟩ := (secures "/n" "2" (by decide)).2 d' parsed' (unshadowed _)
  exact ⟨t, d', rfl, written, parsed', ⟨p, there, secure⟩, q, there', secure'⟩

open Document in
/-- An entry with a kind and a value in the clear keeps both, so the document cannot be read afterwards. -/
theorem encrypt_kept_kind :
    let s : Session := ⟨{ files := .ofList [("a.yaml", "/a:\n  Type: String\n  Value: plain\n")] }, {}⟩
    let run := (encrypt "a.yaml" "arn:k" ["/a", "v"] false false).runOn s
    let written := "/a:\n  Type: String\n  Value: plain\n  EncryptedValue: YXJuOmsAdg==\n  KeyId: arn:k\n"
    (ofText {} "/a:\n  Type: String\n  Value: plain\n").map (fun _ => ()) = .ok () ∧
      run.1 = .ok () ∧ run.2.world.files.read "a.yaml" = .ok written ∧
      (ofText {} written).map (fun _ => ()) = .error (.unwantedKeyId "/a") := by
  decide +kernel

end Command.Session

end ParamFile
