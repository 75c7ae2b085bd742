import ParamFile.Proofs.EntryFields

/-!
# Plaintext among the fields of a secret

A secret parameter takes its value from a ciphertext, else from an input, and only where neither is
given does it look at a value in the clear. So where no secret may stand in the clear, such a value is
refused if it is the only source, and beside another one it is passed over: the parameter is the one of
the fields without it (`ofFields_erase_value`, and `plaintext_unread` for the entries of a document).
-/

namespace ParamFile

open Yaml

namespace Parameter

variable {o : LoadOptions} {m : Mapping} {p : Parameter}

theorem textField_erase {name field : String} (ne : field ≠ name) (owner : String) :
    textField (m.erase name) owner field = textField m owner field :=
  textField_congr (Mapping.stated_of_get? (Mapping.get?_erase_of_ne ne m)) owner

theorem kindOf_erase_value (keyed : (m.stated "KeyId").isSome = true) (name : String) :
    kindOf (m.erase "Value") name = kindOf m name := by
  obtain ⟨key, hkey⟩ := Option.isSome_iff_exists.1 keyed
  have there := Mapping.get?_of_stated hkey
  rw [kindOf_eq, kindOf_eq, textField_erase (by decide), Mapping.get?_erase_of_ne (by decide), there]
  rfl

/-- Beside another source a value in the clear is not looked at. -/
theorem SecureSource.erase_value {name : String} {key : Template} {content : Option Content}
    {encrypted : Bool} (h : SecureSource o m name key content encrypted)
    (strict : o.allowSecureStringValue = false) (given : (m.stated "Value").isSome = true) :
    ((m.stated "EncryptedValue").isSome = true ∨ (m.stated "Input").isSome = true) ∧
      SecureSource o (m.erase "Value") name key content encrypted := by
  cases h with
  | ciphertext text =>
    refine ⟨.inl (stated_of_textField text), .ciphertext ?_⟩
    rwa [textField_erase (by decide)]
  | input unsealed text single =>
    refine ⟨.inr (stated_of_textField text), .input ?_ ?_ single⟩
    · rwa [textField_erase (by decide)]
    · rwa [textField_erase (by decide)]
  | clear _ _ _ allowed =>
    rw [strict] at allowed
    cases allowed
  | absent _ _ empty =>
    rw [textField_eq_none.1 empty] at given
    cases given

/-- A secret parameter with a value in the clear has another source, and is the one of the other
fields. -/
theorem ofFields_erase_value (loaded : ofFields o m = .ok p)
    (strict : o.allowSecureStringValue = false) (secret : p.kind = .secureString)
    (given : (m.stated "Value").isSome = true) :
    ((m.stated "EncryptedValue").isSome = true ∨ (m.stated "Input").isSome = true) ∧
      ofFields o (m.erase "Value") = .ok p := by
  obtain ⟨name, d⟩ := ofFields_ok.1 loaded
  obtain ⟨key, own, content⟩ := d.secure ((Kind.isSecure_iff _).2 secret)
  obtain ⟨source, others⟩ := (secureContent_source.1 content).erase_value strict given
  have keyed : (m.stated "KeyId").isSome = true := by
    obtain ⟨text, read, same⟩ := ok_of_map d.keyId
    cases text with
    | none => rw [own] at same; cases same
    | some text => exact stated_of_textField read
  have other {field : String} (ne : field ≠ "Value") (owner : String) :
      textField (m.erase "Value") owner field = textField m owner field := textField_erase ne owner
  have condition : disableOf o (m.erase "Value") name = disableOf o m name :=
    disableOf_congr (Mapping.get?_erase_of_ne (by decide) m)
      (fun _ => Mapping.get?_erase_of_ne (by decide) m) name
  refine ⟨source, ofFields_ok.2 ⟨name, ?_⟩⟩
  exact {
    named := by rw [other (by decide)]; exact d.named
    name_eq := d.name_eq
    kind := by rw [kindOf_erase_value keyed]; exact d.kind
    keyId := by rw [other (by decide)]; exact d.keyId
    check := d.check
    content := by rw [secret, own]; exact secureContent_source.2 others
    pattern := by rw [other (by decide)]; exact d.pattern
    description := by rw [other (by decide)]; exact d.description
    overwrite := by rw [overwriteOf, Mapping.get?_erase_of_ne (by decide)]; exact d.overwrite
    disable := by rw [condition]; exact d.disable
    metadata := d.metadata }

end Parameter

namespace Document

/-- Where no secret may stand in the clear, an entry of a secret parameter has a value in the clear only
beside a ciphertext or an input, and the parameter is the one of the entry without it. -/
theorem plaintext_unread {o : LoadOptions} {root : Mapping} {d : Document}
    (loaded : ofTree o (.map root) = .ok d) (strict : o.allowSecureStringValue = false)
    {k v : Value} {name : String} (entry : (k, v) ∈ root) (named : k.scalarText? = some name)
    (notReserved : isReserved name = false) :
    ∃ common own p, commonFields root = .ok common ∧ entryFields name v = .ok own ∧
      Parameter.ofFields o (fragment name common own) = .ok p ∧
      (lastEntry root name = some v → d.parameters.get? name = some p) ∧
      (p.kind = .secureString → ((fragment name common own).stated "Value").isSome = true →
        (((fragment name common own).stated "EncryptedValue").isSome = true ∨
          ((fragment name common own).stated "Input").isSome = true) ∧
        Parameter.ofFields o ((fragment name common own).erase "Value") = .ok p) := by
  obtain ⟨common, shared, readable, stands⟩ := entries_of_loaded loaded
  obtain ⟨own, p, fields, hp⟩ := (readable _ entry).described named notReserved
  refine ⟨common, own, p, shared, fields, hp, fun last => ?_, fun secret given => ?_⟩
  · obtain ⟨q, hq, there⟩ := stands name v notReserved last
    rw [described, fields, ok_bind, hp] at hq
    cases hq
    exact there
  · exact Parameter.ofFields_erase_value hp strict secret given

/-- A shared value beside an input. -/
theorem plaintext_unread_shared :
    ∃ d p, ofTree {} (.map [(.string ".COMMON", .map [(.string "KeyId", .string "key"),
          (.string "Value", .string "plain")]),
        (.string "/a", .map [(.string "Input", .string "Password")])]) = .ok d ∧
      d.parameters.get? "/a" = some p ∧ p.kind = .secureString ∧
      Parameter.ofFields {} [(.string "Name", .string "/a"), (.string "KeyId", .string "key"),
        (.string "Input", .string "Password")] = .ok p := by
  have facts : (ofTree {} (.map [(.string ".COMMON", .map [(.string "KeyId", .string "key"),
        (.string "Value", .string "plain")]),
      (.string "/a", .map [(.string "Input", .string "Password")])])).map
        (fun d => (d.parameters.get? "/a").map (·.kind)) = .ok (some .secureString) := by
    decide +kernel
  obtain ⟨d, loaded, kind⟩ := ok_of_map facts
  obtain ⟨common, own, p, shared, fields, -, last, unread⟩ :=
    plaintext_unread loaded rfl (.tail _ (.head _)) rfl rfl
  cases shared
  cases fields
  have there := last rfl
  have secret : p.kind = .secureString := by simpa [there] using kind
  exact ⟨d, p, loaded, there, secret, (unread secret rfl).2⟩

/-- A secret parameter may have its plaintext beside its ciphertext. -/
theorem plaintext_admitted :
    ∃ d p, ofTree {} (.map [(.string "/a", .map [(.string "KeyId", .string "key"),
        (.string "EncryptedValue", .string "a2V5AHM="), (.string "Value", .string "plain")])]) =
          .ok d ∧
      d.parameters.get? "/a" = some p ∧ p.kind = .secureString ∧
      (fragment "/a" [] [(.string "KeyId", .string "key"),
        (.string "EncryptedValue", .string "a2V5AHM="),
        (.string "Value", .string "plain")]).stated "Value" = some (.string "plain") :=
  ⟨_, _, rfl, rfl, rfl, rfl⟩

end Document

end ParamFile
