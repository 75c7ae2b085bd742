import ParamFile.Proofs.Stated

/-!
# Fields with a ciphertext

Fields that hold a ciphertext and its key describe a secret parameter, or none (`ofFields_sealed`): they
do unless another kind is stated (`SaysSecret`), or one of the fields that have nothing to do with the
secret cannot be read (`Presentable`). So whether they do shows in the other fields
(`ofFields_sealed_ok`). The value in the clear is not among these: it is not looked at.
-/

namespace ParamFile.Parameter

open Yaml

variable {o : LoadOptions} {m m' : Mapping} {p : Parameter} {owner : String}

/-! ## Single fields -/

theorem isOk_textField {field : String} :
    (∃ r, textField m owner field = .ok r) ↔
      ∀ v, m.stated field = some v → v.scalarText?.isSome = true := by
  rw [textField_eq]
  cases m.stated field with
  | none => simp
  | some v => cases text : v.scalarText? <;> simp [text]

theorem textField_of_string {field text : String} (h : m.get? field = some (.string text))
    (owner : String) : textField m owner field = .ok (some text) := by
  rw [textField, h]
  rfl

theorem isOk_overwriteOf :
    (∃ r, overwriteOf m owner = .ok r) ↔
      ∀ v, m.stated "Overwrite" = some v → (flag? v).isSome = true := by
  rw [overwriteOf_eq]
  cases m.stated "Overwrite" with
  | none => simp
  | some v => cases flag : flag? v <;> simp [flag]

/-- What the fields say on whether the parameter is disabled: the first of two that is there. -/
def condition (m : Mapping) : Option Value := (m.get? "Disable").orElse fun _ => m.get? "Disabled"

theorem isOk_disableOf :
    (∃ r, disableOf o m owner = .ok r) ↔
      ∀ v, condition m = some v → v = .null ∨ (flag? v).isSome = true := by
  rw [disableOf, ← condition]
  rcases condition m with _ | v
  · simp
  · cases v with
    | null => simp
    | string text => simp [flag?]
    | bool b => simp [flag?]
    | number n => cases n <;> simp [flag?]
    | seq items => simp [flag?]
    | map entries => simp [flag?]
    | tagged tag v => simp [flag?]

/-! ## The kind -/

/-- The fields say no kind, or the secret one. -/
def SaysSecret (m : Mapping) : Prop :=
  ∀ v, m.stated "Type" = some v → v.scalarText? = some Kind.secureString.text

/-- A parameter with a key is secret unless its fields say another kind. -/
theorem kindOf_keyed (keyed : (m.get? "KeyId").isSome = true) (owner : String) :
    kindOf m owner = .ok .secureString ↔ SaysSecret m := by
  rw [kindOf_eq, textField_eq, SaysSecret]
  cases m.stated "Type" with
  | none =>
    rw [ok_bind]
    dsimp only
    rw [if_pos keyed]
    simp [pure, Except.pure]
  | some v =>
    simp only [Option.some.injEq, forall_eq']
    cases v.scalarText? with
    | none => exact ⟨fun h => (by cases h), fun h => (by cases h)⟩
    | some s =>
      rw [ok_bind, Option.some.injEq]
      dsimp only
      constructor
      · intro h
        split at h
        · rename_i kind named
          cases h
          exact (Kind.text_of_ofText? named).symm
        · cases h
      · rintro rfl
        rw [Kind.ofText?_text]
        rfl

/-! ## All fields -/

/-- The fields that have nothing to do with the secret can be read. -/
structure Presentable (m : Mapping) : Prop where
  named : (m.stated "Name").isSome = true
  texts : ∀ field ∈ ["Name", "AllowedPattern", "Description"], ∀ v, m.stated field = some v →
    v.scalarText?.isSome = true
  overwrite : ∀ v, m.stated "Overwrite" = some v → (flag? v).isSome = true
  condition : ∀ v, condition m = some v → v = .null ∨ (flag? v).isSome = true

theorem name_of_loaded {name : String} (h : ofFields o m = .ok p)
    (named : m.get? "Name" = some (.string name)) : p.name = { text := name } := by
  obtain ⟨own, d⟩ := ofFields_ok.1 h
  have same := (textField_of_string named "parameter").symm.trans d.named
  cases same
  exact d.name_eq

/-- The fields of a parameter can be read. -/
theorem presentable_of_loaded (h : ofFields o m = .ok p) : Presentable m := by
  obtain ⟨name, d⟩ := ofFields_ok.1 h
  obtain ⟨_, pattern, -⟩ := ok_of_map d.pattern
  refine ⟨stated_of_textField d.named, ?_, isOk_overwriteOf.1 ⟨_, d.overwrite⟩,
    isOk_disableOf.1 ⟨_, d.disable⟩⟩
  simp only [List.forall_mem_cons, List.not_mem_nil, false_implies, implies_true, and_true]
  exact ⟨isOk_textField.1 ⟨_, d.named⟩, isOk_textField.1 ⟨_, pattern⟩,
    isOk_textField.1 ⟨_, d.description⟩⟩

/-- The fields that the kind of a parameter, its key and its value are read from. -/
def secretFields : List String := ["Type", "KeyId", "EncryptedValue", "Input", "Value"]

theorem Presentable.congr (h : Presentable m)
    (same : ∀ field, field ∉ secretFields → m'.get? field = m.get? field) : Presentable m' := by
  have stated (field : String) (other : field ∉ secretFields) : m'.stated field = m.stated field :=
    Mapping.stated_of_get? (same field other)
  constructor
  · rw [stated "Name" (by decide)]
    exact h.named
  · intro field listed
    rw [stated field (by revert field; decide)]
    exact h.texts field listed
  · rw [stated "Overwrite" (by decide)]
    exact h.overwrite
  · rw [Parameter.condition, same "Disable" (by decide), same "Disabled" (by decide)]
    exact h.condition

/-- Whether the fields can be read shows in those that have nothing to do with the secret. -/
theorem presentable_congr (same : ∀ field, field ∉ secretFields → m'.get? field = m.get? field) :
    Presentable m' ↔ Presentable m :=
  ⟨fun h => h.congr fun field other => (same field other).symm, fun h => h.congr same⟩

theorem saysSecret_congr (same : m'.get? "Type" = m.get? "Type") : SaysSecret m' ↔ SaysSecret m := by
  rw [SaysSecret, SaysSecret, Mapping.stated_of_get? same]

section
variable {ciphertext keyId : String} (sealed : m.get? "EncryptedValue" = some (.string ciphertext))
  (keyed : m.get? "KeyId" = some (.string keyId))
include sealed keyed

/-- A parameter with a key and a ciphertext is secret, and the ciphertext is its value. -/
theorem ofFields_sealed (h : ofFields o m = .ok p) :
    p.kind = .secureString ∧ p.isEncrypted = true ∧ p.keyId = some (o.template keyId) ∧
      p.content = some (.single (o.template ciphertext)) := by
  obtain ⟨name, d⟩ := ofFields_ok.1 h
  have key : some (o.template keyId) = p.keyId := by
    have read := d.keyId
    rw [textField_of_string keyed] at read
    exact Except.ok.inj read
  have kind : p.kind.isSecure = true := by
    have checked := checkKeyId_ok.1 d.check
    rw [← key] at checked
    exact checked.symm
  obtain ⟨own, -, content⟩ := d.secure kind
  have source : SecureSource o m name own (some (.single (o.template ciphertext))) true :=
    .ciphertext (textField_of_string sealed name)
  have same := Except.ok.inj (content.symm.trans (secureContent_source.2 source))
  exact ⟨(Kind.isSecure_iff _).1 kind, congrArg Prod.snd same, key.symm, congrArg Prod.fst same⟩

/-- Fields with a key and a ciphertext describe a parameter exactly if they say no other kind and those
that have nothing to do with the secret can be read. -/
theorem ofFields_sealed_ok : (∃ p, ofFields o m = .ok p) ↔ SaysSecret m ∧ Presentable m := by
  have there : (m.get? "KeyId").isSome = true := by rw [keyed]; rfl
  constructor
  · rintro ⟨p, h⟩
    refine ⟨?_, presentable_of_loaded h⟩
    obtain ⟨name, d⟩ := ofFields_ok.1 h
    rw [← kindOf_keyed there name, d.kind, (ofFields_sealed sealed keyed h).1]
  · rintro ⟨secret, readable⟩
    obtain ⟨name?, named⟩ := isOk_textField.2 (readable.texts "Name" (by simp))
    obtain ⟨name, rfl⟩ : ∃ name, name? = some name := by
      refine Option.ne_none_iff_exists'.1 ?_
      rintro rfl
      have there := readable.named
      rw [textField_eq_none.1 named] at there
      cases there
    obtain ⟨pattern, hpattern⟩ := isOk_textField.2 (readable.texts "AllowedPattern" (by simp))
    obtain ⟨description, hdescription⟩ := isOk_textField.2 (readable.texts "Description" (by simp))
    obtain ⟨overwrite, hoverwrite⟩ := isOk_overwriteOf.2 readable.overwrite
    obtain ⟨disable, hdisable⟩ := isOk_disableOf.2 readable.condition
    let p : Parameter := {
      name := { text := name }
      kind := .secureString
      content := some (.single (o.template ciphertext))
      isEncrypted := true
      allowedPattern := pattern.map o.template
      description
      keyId := some (o.template keyId)
      overwrite
      disable }
    have d : Describes o m name p := {
      named
      name_eq := rfl
      kind := (kindOf_keyed there name).2 secret
      keyId := by rw [textField_of_string keyed]; rfl
      check := rfl
      content := secureContent_source.2 (.ciphertext (textField_of_string sealed name))
      pattern := by rw [hpattern]; rfl
      description := hdescription
      overwrite := hoverwrite
      disable := hdisable
      metadata := rfl }
    exact ⟨p, ofFields_ok.2 ⟨name, d⟩⟩

end

end ParamFile.Parameter
