import ParamFile.Document.Merge
import ParamFile.Document.Resolved
import ParamFile.Proofs.Action

/-!
# Loaded documents

`Parameter.Describes` says field by field which parameter some fields describe, and `ofFields_ok` that
it is the one that is built. A parameter that was loaded is sound (`Parameter.Sound`): its key, its
encryption and its value fit its kind, and only a secret value carries a key to be read with, its own.

`Document.Built` are the documents that come from trees, by merging, and by supplying values. Their
parameters are sound (`Built.sound`), and none of their inputs holds a secret unless it is secret
(`Built.stored`). Hence whatever they are bound to is ready to be read (`Built.ready`).
-/

namespace ParamFile

open Yaml

/-! ## Results -/

section
variable {ε α β : Type}

@[simp] theorem ok_bind (a : α) (f : α → Except ε β) : (.ok a : Except ε α) >>= f = f a := rfl

/-- Two steps in a row give a result only if both do. -/
theorem ok_of_bind {x : Except ε α} {f : α → Except ε β} {y : β} (h : (x >>= f) = .ok y) :
    ∃ a, x = .ok a ∧ f a = .ok y := by
  cases x with
  | error e => cases h
  | ok a => exact ⟨a, rfl, h⟩

theorem ok_of_isOk {x : Except ε α} (h : x.isOk = true) : ∃ a, x = .ok a := by
  cases x with
  | error e => cases h
  | ok a => exact ⟨a, rfl⟩

theorem ok_of_map {x : Except ε α} {f : α → β} {y : β} (h : x.map f = .ok y) :
    ∃ a, x = .ok a ∧ f a = y := by
  cases x with
  | error e => cases h
  | ok a => cases h; exact ⟨a, rfl, rfl⟩

theorem mapM_ok {f : α → Except ε β} {l : List α} {ys : List β} :
    l.mapM f = .ok ys ↔ List.Forall₂ (fun x y => f x = .ok y) l ys := by
  constructor
  · intro h
    induction l generalizing ys with
    | nil => cases h; exact .nil
    | cons x l ih =>
      rw [List.mapM_cons] at h
      obtain ⟨y, hy, h⟩ := ok_of_bind h
      obtain ⟨ys, hys, h⟩ := ok_of_bind h
      cases h
      exact .cons hy (ih hys)
  · intro h
    induction h with
    | nil => rfl
    | cons hx _ ih => rw [List.mapM_cons, hx, ok_bind, ih]; rfl

end

/-! ## Parameters -/

@[simp] theorem LoadOptions.template_keyId (o : LoadOptions) (text : String) :
    (o.template text).keyId = none := by
  unfold LoadOptions.template
  split <;> rfl

namespace Parameter

/-- The value of a parameter of the given kind and key, and whether it is ciphertext. -/
def contentOf (o : LoadOptions) (m : Mapping) (name : String) (kind : Kind)
    (keyId : Option Template) : Except Error (Option Content × Bool) :=
  match kind, keyId with
  | .secureString, some key => secureContent o m name key
  | _, _ => (plainContent o m name).map fun content => (content, false)

theorem ofFields_eq (o : LoadOptions) (m : Mapping) :
    ofFields o m = do
      match ← textField m "parameter" "Name" with
      | none => .error (.invalidDocument .missingName)
      | some name =>
        let kind ← kindOf m name
        let key ← textField m name "KeyId"
        checkKeyId name kind (key.map o.template)
        let content ← contentOf o m name kind (key.map o.template)
        let pattern ← textField m name "AllowedPattern"
        let description ← textField m name "Description"
        let overwrite ← overwriteOf m name
        let disable ← disableOf o m name
        return {
          name := { text := name }, kind, content := content.1, isEncrypted := content.2,
          allowedPattern := pattern.map o.template, description, keyId := key.map o.template
          overwrite, disable } := by
  refine bind_congr fun name? => ?_
  cases name? with
  | none => rfl
  | some name =>
    refine bind_congr fun kind => bind_congr fun key => bind_congr fun _ => ?_
    rcases kind with _ | _ | _ <;> rcases key with _ | key <;> rfl

/-- The fields describe this parameter. -/
structure Describes (o : LoadOptions) (m : Mapping) (name : String) (p : Parameter) : Prop where
  named : textField m "parameter" "Name" = .ok (some name)
  name_eq : p.name = { text := name }
  kind : kindOf m name = .ok p.kind
  keyId : (textField m name "KeyId").map (Option.map o.template) = .ok p.keyId
  check : checkKeyId name p.kind p.keyId = .ok ()
  content : contentOf o m name p.kind p.keyId = .ok (p.content, p.isEncrypted)
  pattern : (textField m name "AllowedPattern").map (Option.map o.template) = .ok p.allowedPattern
  description : textField m name "Description" = .ok p.description
  overwrite : overwriteOf m name = .ok p.overwrite
  disable : disableOf o m name = .ok p.disable
  metadata : p.metadata = {}

theorem ofFields_ok {o : LoadOptions} {m : Mapping} {p : Parameter} :
    ofFields o m = .ok p ↔ ∃ name, Describes o m name p := by
  constructor
  · intro h
    rw [ofFields_eq] at h
    obtain ⟨name?, hn, h⟩ := ok_of_bind h
    cases name? with
    | none => cases h
    | some name =>
      obtain ⟨kind, hkind, h⟩ := ok_of_bind h
      obtain ⟨key, hkey, h⟩ := ok_of_bind h
      obtain ⟨_, hcheck, h⟩ := ok_of_bind h
      obtain ⟨content, hcontent, h⟩ := ok_of_bind h
      obtain ⟨pattern, hpattern, h⟩ := ok_of_bind h
      obtain ⟨description, hdescription, h⟩ := ok_of_bind h
      obtain ⟨overwrite, hoverwrite, h⟩ := ok_of_bind h
      obtain ⟨disable, hdisable, h⟩ := ok_of_bind h
      cases h
      exact ⟨name, hn, rfl, hkind, by rw [hkey]; rfl, hcheck, hcontent, by rw [hpattern]; rfl,
        hdescription, hoverwrite, hdisable, rfl⟩
  · rintro ⟨name, hd⟩
    obtain ⟨key, hkey, key_eq⟩ := ok_of_map hd.keyId
    obtain ⟨pattern, hpattern, pattern_eq⟩ := ok_of_map hd.pattern
    rw [ofFields_eq, hd.named, ok_bind]
    simp only [hd.kind, hkey, key_eq, hd.check, hd.content, hpattern, pattern_eq, hd.description,
      hd.overwrite, hd.disable, ok_bind, ← hd.name_eq, ← hd.metadata]
    rfl

/-- What holds of every parameter that was loaded. -/
structure Sound (p : Parameter) : Prop where
  keyId_isSome : p.keyId.isSome = p.kind.isSecure
  secure_of_encrypted : p.isEncrypted = true → p.kind.isSecure = true
  single : p.kind.isSecure = true → ∀ items, p.content ≠ some (.list items)
  name : p.name.keyId = none
  pattern : ∀ t, p.allowedPattern = some t → t.keyId = none
  keyId : ∀ t, p.keyId = some t → t.keyId = none
  disable : ∀ t, p.disable = some (.template t) → t.keyId = none
  items : ∀ items, p.content = some (.list items) → ∀ t ∈ items, t.keyId = none
  input : ∀ t key, p.content = some (.single t) → t.keyId = some key →
    p.isEncrypted = false ∧ p.keyId = some key

/-- A value that is taken from an input is no ciphertext, and belongs to a secret parameter. -/
theorem Sound.of_isFromInput {p : Parameter} (hp : p.Sound) (hi : p.isFromInput = true) :
    p.isEncrypted = false ∧ p.kind.isSecure = true ∧
      ∃ t key, p.content = some (.single t) ∧ t.keyId = some key ∧ p.keyId = some key := by
  unfold isFromInput at hi
  split at hi
  · rename_i t ht
    obtain ⟨key, hkey⟩ := Option.isSome_iff_exists.1 hi
    obtain ⟨he, own⟩ := hp.input t key ht hkey
    exact ⟨he, by rw [← hp.keyId_isSome, own]; rfl, t, key, ht, hkey, own⟩
  · cases hi

/-- A value is ciphertext, or taken from an input, or neither; secrets are the first two. -/
theorem Sound.value_cases {p : Parameter} (hp : p.Sound) :
    (p.kind.isSecure = true ∧ p.isEncrypted = true ∧ p.isFromInput = false) ∨
      (p.kind.isSecure = true ∧ p.isEncrypted = false ∧ p.isFromInput = true) ∨
      (p.isEncrypted = false ∧ p.isFromInput = false) := by
  cases hi : p.isFromInput with
  | true =>
    obtain ⟨he, hk, -⟩ := hp.of_isFromInput hi
    exact .inr (.inl ⟨hk, he, rfl⟩)
  | false =>
    cases he : p.isEncrypted with
    | true => exact .inl ⟨hp.secure_of_encrypted he, rfl, rfl⟩
    | false => exact .inr (.inr ⟨rfl, rfl⟩)

theorem checkKeyId_ok {name : String} {kind : Kind} {key : Option Template} :
    checkKeyId name kind key = .ok () ↔ key.isSome = kind.isSecure := by
  cases h : kind.isSecure <;> cases key <;> simp [checkKeyId, h]

theorem listItems_ok {o : LoadOptions} {name : String} {vs : List Value} {items : List Template}
    (h : listItems o name vs = .ok items) : ∀ t ∈ items, t.keyId = none := by
  have each := mapM_ok.1 h
  clear h
  induction each with
  | nil => simp
  | cons hv _ ih =>
    intro t ht
    rcases List.mem_cons.1 ht with rfl | ht
    · split at hv
      · cases hv
        exact o.template_keyId _
      · cases hv
    · exact ih t ht

/-- Nothing in the value of a parameter that is not secret is read with a key. -/
theorem plainContent_ok {o : LoadOptions} {m : Mapping} {name : String} {content : Option Content}
    (h : plainContent o m name = .ok content) :
    (∀ t, content = some (.single t) → t.keyId = none) ∧
      ∀ items, content = some (.list items) → ∀ t ∈ items, t.keyId = none := by
  unfold plainContent at h
  split at h
  · cases h; simp
  · cases h; simp
  · obtain ⟨items, hi, rfl⟩ := ok_of_map h
    simpa using listItems_ok hi
  · split at h
    · cases h; simp
    · cases h

/-- Where the value of a secret parameter comes from, and whether it is ciphertext: the first of three
fields that says something, or none of them. -/
inductive SecureSource (o : LoadOptions) (m : Mapping) (name : String) (key : Template) :
    Option Content → Bool → Prop
  | ciphertext {text : String} (given : textField m name "EncryptedValue" = .ok (some text)) :
    SecureSource o m name key (some (.single (o.template text))) true
  | input {text reference : String} (unsealed : textField m name "EncryptedValue" = .ok none)
      (given : textField m name "Input" = .ok (some text))
      (single : singleReference? text = some reference) :
    SecureSource o m name key (some (.single { o.template reference with keyId := some key })) false
  | clear {text : String} (unsealed : textField m name "EncryptedValue" = .ok none)
      (unasked : textField m name "Input" = .ok none)
      (given : textField m name "Value" = .ok (some text))
      (allowed : o.allowSecureStringValue = true) :
    SecureSource o m name key (some (.single (.literal text))) false
  | absent (unsealed : textField m name "EncryptedValue" = .ok none)
      (unasked : textField m name "Input" = .ok none)
      (empty : textField m name "Value" = .ok none) :
    SecureSource o m name key none false

/-- The value of a secret parameter is taken from its source. -/
theorem secureContent_source {o : LoadOptions} {m : Mapping} {name : String} {key : Template}
    {content : Option Content} {encrypted : Bool} :
    secureContent o m name key = .ok (content, encrypted) ↔
      SecureSource o m name key content encrypted := by
  constructor
  · intro h
    obtain ⟨ciphertext, sealing, h⟩ := ok_of_bind h
    cases ciphertext with
    | some c => cases h; exact .ciphertext sealing
    | none =>
      obtain ⟨input, asking, h⟩ := ok_of_bind h
      cases input with
      | some input =>
        dsimp only at h
        split at h
        · cases h; exact .input sealing asking ‹_›
        · cases h
      | none =>
        obtain ⟨value, given, h⟩ := ok_of_bind h
        cases value with
        | none => cases h; exact .absent sealing asking given
        | some value =>
          dsimp only at h
          split at h
          · cases h; exact .clear sealing asking given ‹_›
          · cases h
  · intro h
    unfold secureContent
    cases h with
    | ciphertext given => rw [given]; rfl
    | input unsealed given single =>
      rw [unsealed, ok_bind]
      dsimp only
      rw [given, ok_bind]
      dsimp only
      rw [single]
      rfl
    | clear unsealed unasked given allowed =>
      rw [unsealed, ok_bind]
      dsimp only
      rw [unasked, ok_bind]
      dsimp only
      rw [given, ok_bind]
      dsimp only
      rw [if_pos allowed]
      rfl
    | absent unsealed unasked empty =>
      rw [unsealed, ok_bind]
      dsimp only
      rw [unasked, ok_bind]
      dsimp only
      rw [empty, ok_bind]
      rfl

/-- The value of a secret parameter is no list, and is read with no key but its own. -/
theorem secureContent_ok {o : LoadOptions} {m : Mapping} {name : String} {key : Template}
    {content : Option Content} {encrypted : Bool}
    (h : secureContent o m name key = .ok (content, encrypted)) :
    (∀ items, content ≠ some (.list items)) ∧
      ∀ t k, content = some (.single t) → t.keyId = some k → encrypted = false ∧ k = key := by
  cases secureContent_source.1 h with
  | ciphertext =>
    refine ⟨by simp, fun t k ht hk => ?_⟩
    cases ht
    rw [o.template_keyId] at hk
    cases hk
  | input =>
    refine ⟨by simp, fun t k ht hk => ?_⟩
    cases ht
    cases hk
    exact ⟨rfl, rfl⟩
  | clear =>
    refine ⟨by simp, fun t k ht hk => ?_⟩
    cases ht
    cases hk
  | absent => simp

theorem disableOf_ok {o : LoadOptions} {m : Mapping} {name : String} {t : Template}
    (h : disableOf o m name = .ok (some (.template t))) : t.keyId = none := by
  unfold disableOf at h
  split at h
  · cases h
  · cases h
  · cases h
    exact o.template_keyId _
  · split at h <;> cases h

theorem template?_keyId {o : LoadOptions} {s : Except Error (Option String)} {r : Option Template}
    (h : s.map (Option.map o.template) = .ok r) : ∀ t, r = some t → t.keyId = none := by
  obtain ⟨s, -, rfl⟩ := ok_of_map h
  cases s with
  | none => simp
  | some s =>
    rintro t ⟨⟩
    exact o.template_keyId s

section
variable {o : LoadOptions} {m : Mapping} {name : String} {p : Parameter}

theorem Describes.plain (d : Describes o m name p) (hk : p.kind.isSecure = false) :
    p.isEncrypted = false ∧ plainContent o m name = .ok p.content := by
  have hc := d.content
  unfold contentOf at hc
  split at hc
  · rename_i eq _
    rw [eq] at hk
    cases hk
  · obtain ⟨content, hcontent, eq⟩ := ok_of_map hc
    simp only [Prod.mk.injEq] at eq
    exact ⟨eq.2.symm, eq.1 ▸ hcontent⟩

theorem Describes.secure (d : Describes o m name p) (hk : p.kind.isSecure = true) :
    ∃ key, p.keyId = some key ∧ secureContent o m name key = .ok (p.content, p.isEncrypted) := by
  obtain ⟨key, hkey⟩ := Option.isSome_iff_exists.1 ((checkKeyId_ok.1 d.check).trans hk)
  have hc := d.content
  rw [(Kind.isSecure_iff _).1 hk, hkey] at hc
  exact ⟨key, hkey, hc⟩

theorem Describes.sound (d : Describes o m name p) : p.Sound where
  keyId_isSome := checkKeyId_ok.1 d.check
  secure_of_encrypted he := by
    cases hk : p.kind.isSecure with
    | true => rfl
    | false => rw [(d.plain hk).1] at he; cases he
  single hk := by
    obtain ⟨key, -, hc⟩ := d.secure hk
    exact (secureContent_ok hc).1
  name := by rw [d.name_eq]
  pattern := template?_keyId d.pattern
  keyId := template?_keyId d.keyId
  disable t ht := disableOf_ok (ht ▸ d.disable)
  items items hi := by
    cases hk : p.kind.isSecure with
    | true =>
      obtain ⟨key, -, hc⟩ := d.secure hk
      exact absurd hi ((secureContent_ok hc).1 items)
    | false => exact (plainContent_ok (d.plain hk).2).2 items hi
  input t key ht hkey := by
    cases hk : p.kind.isSecure with
    | true =>
      obtain ⟨own, hown, hc⟩ := d.secure hk
      obtain ⟨he, rfl⟩ := (secureContent_ok hc).2 t key ht hkey
      exact ⟨he, hown⟩
    | false =>
      rw [(plainContent_ok (d.plain hk).2).1 t ht] at hkey
      cases hkey

/-- A parameter that was loaded is sound. -/
theorem ofFields_sound (h : ofFields o m = .ok p) : p.Sound := by
  obtain ⟨name, d⟩ := ofFields_ok.1 h
  exact d.sound

end

end Parameter

/-! ## Inputs -/

namespace Input

/-- Only a secret input holds a secret. -/
def Stored (i : Input) : Prop := i.kind.isSecure = false → i.ciphertext = none ∧ i.typed = none

/-- The input answers to a reader with a key, and unless it is secret also to one without. -/
def Ready (i : Input) : Prop := i.isSet = true ∧ (i.kind.isSecure = false → i.plain.isSome)

theorem Stored.setValue {i : Input} (h : i.Stored) (value : String) (encrypted : Option Bool) :
    (i.setValue value encrypted).Stored := by
  intro hk
  unfold Input.setValue at hk ⊢
  split
  · rename_i hs
    rw [if_pos hs] at hk
    simp only at hk
    simp [hk] at hs
  · rename_i hs
    rw [if_neg hs] at hk
    exact h hk

theorem Stored.merge {name : String} {a b c : Input} (ha : a.Stored) (h : merge name a b = .ok c) :
    c.Stored := by
  unfold Input.merge at h
  split at h
  · cases h
  · dsimp only at h
    split at h
    · split at h
      · cases h
      · cases h; exact ha
    · cases h; exact ha

theorem stored_ofDeclaration {name : String} {d : Declaration} {i : Input}
    (h : ofDeclaration name d = .ok i) : i.Stored := by
  simp only [ofDeclaration, bind, Except.bind, pure, Except.pure] at h
  repeat' split at h
  all_goals
    cases h
    try exact fun _ => ⟨rfl, rfl⟩

theorem stored_ofEntry {name : String} {v : Value} {i : Input} (h : ofEntry name v = .ok i) :
    i.Stored := by
  unfold ofEntry at h
  split at h
  · exact stored_ofDeclaration h
  · exact stored_ofDeclaration h
  · obtain ⟨d, -, h⟩ := ok_of_bind h
    exact stored_ofDeclaration h
  · cases h

theorem Stored.ready {i : Input} (h : i.Stored) (set : i.isSet = true) : i.Ready := by
  refine ⟨set, fun hk => ?_⟩
  obtain ⟨hc, ht⟩ := h hk
  simpa [isSet, hc, ht] using set

theorem ready_setTyped (i : Input) (value : String) : (i.setTyped value).Ready := by
  unfold setTyped
  split
  · rename_i hk
    exact ⟨by simp [isSet], fun h => by simp [hk] at h⟩
  · exact ⟨by simp [isSet], fun _ => rfl⟩

end Input

namespace Inputs

/-- Each input satisfies `P` with its name. -/
def Each (P : String → Input → Prop) (m : Inputs) : Prop := ∀ name i, m.get? name = some i → P name i

section
variable {P : String → Input → Prop}

theorem each_empty : Each P .empty := fun _ _ h => by cases h

theorem Each.insert {m : Inputs} (h : m.Each P) {name : String} {i : Input} (hi : P name i) :
    Each P (m.insert name i) := by
  intro k j hj
  rw [NameMap.get?_insert] at hj
  split at hj
  · cases hj
    rename_i same
    exact same ▸ hi
  · exact h k j hj

theorem each_ofEntries (declared : ∀ name v i, Input.ofEntry name v = .ok i → P name i)
    {entries : Mapping} {m n : Inputs} (hm : m.Each P) (h : Input.ofEntries entries m = .ok n) :
    n.Each P := by
  induction entries generalizing m with
  | nil => cases h; exact hm
  | cons e rest ih =>
    unfold Input.ofEntries at h
    split at h
    · cases h
    · obtain ⟨i, hi, h⟩ := ok_of_bind h
      exact ih (hm.insert (declared _ _ _ hi)) h

/-- What every declaration satisfies, all inputs of a section do. -/
theorem each_ofSection (declared : ∀ name v i, Input.ofEntry name v = .ok i → P name i)
    {v : Value} {m : Inputs} (h : Input.ofSection v = .ok m) : m.Each P := by
  unfold Input.ofSection at h
  split at h
  · cases h; exact each_empty
  · exact each_ofEntries declared each_empty h
  · cases h

end

/-- No input holds a secret unless it is secret. -/
def Stored (m : Inputs) : Prop := ∀ name i, m.get? name = some i → i.Stored

theorem Stored.insert {m : Inputs} (h : m.Stored) {i : Input} (hi : i.Stored) (name : String) :
    Inputs.Stored (m.insert name i) :=
  Each.insert (P := fun _ i => i.Stored) h hi

theorem Stored.erase {m : Inputs} (h : m.Stored) (name : String) :
    Inputs.Stored (m.erase name) := by
  intro k j hj
  rw [NameMap.get?_erase] at hj
  split at hj
  · cases hj
  · exact h k j hj

theorem stored_ofSection {v : Value} {m : Inputs} (h : Input.ofSection v = .ok m) : m.Stored :=
  each_ofSection (P := fun _ i => i.Stored) (fun _ _ _ => Input.stored_ofEntry) h

/-- Merging leaves secrets to secret inputs, also when it stops at a conflict. -/
theorem stored_mergeEntries {entries : List (String × Input)}
    (h : ∀ e ∈ entries, e.2.Stored) :
    Action.Meets Stored (Input.mergeEntries entries) (fun _ => True) (fun _ => True) := by
  induction entries with
  | nil => exact .pure trivial
  | cons e rest ih =>
    have tail := ih fun x hx => h x (List.mem_cons_of_mem _ hx)
    refine Action.Meets.get.bind fun m hm => ?_
    split
    · exact (Action.Meets.set (hm.insert (h e List.mem_cons_self) e.1)).bind fun _ _ => tail
    · rename_i a ha
      split
      · exact .throw trivial
      · rename_i c hc
        exact (Action.Meets.set (hm.insert ((hm _ a ha).merge hc) e.1)).bind fun _ _ => tail

theorem Stored.merged {a b c : Inputs} (ha : a.Stored) (hb : b.Stored)
    (h : Input.merged a b = .ok c) : c.Stored := by
  have entries : ∀ e ∈ b.entries, e.2.Stored := fun e he =>
    hb e.1 e.2 (NameMap.mem_entries.1 he)
  have key := (stored_mergeEntries entries a ha).2
  unfold Input.merged Input.mergeAll at h
  split at h
  · rename_i r hr
    rw [hr] at key
    cases h
    exact key
  · cases h

theorem Stored.supply {m n : Inputs} (hm : m.Stored) {name value : String} {encrypted : Bool}
    (h : Input.supply m name value encrypted = .ok n) : n.Stored := by
  have hi : ((m.get? name).getD
      { name, kind := if encrypted then .secureString else .string }).Stored := by
    cases hi : m.get? name with
    | none => exact fun _ => ⟨rfl, rfl⟩
    | some i => exact hm name i hi
  unfold Input.supply at h
  simp only at h
  generalize (m.get? name).getD _ = i at h hi
  generalize (if encrypted then Kind.secureString else Kind.string) = kind at h
  split at h
  · cases h
  · cases h
    exact hm.insert (hi.setValue value _) name

end Inputs

/-! ## Documents -/

namespace OrderedMap

variable {α : Type}

theorem mem_place {name : String} {value v : α} {l : List (String × α)}
    (h : v ∈ (place name value l).map (·.2)) : v = value ∨ v ∈ l.map (·.2) := by
  fun_induction place name value l with
  | case1 => simpa using h
  | case2 w rest =>
    simp only [List.map_cons, List.mem_cons] at h ⊢
    exact h.imp_right .inr
  | case3 k w rest ne ih =>
    simp only [List.map_cons, List.mem_cons] at h ⊢
    rcases h with rfl | h
    · exact .inr (.inl rfl)
    · exact (ih h).imp_right .inr

theorem mem_values_insert {m : OrderedMap α} {name : String} {value v : α}
    (h : v ∈ (m.insert name value).values) : v = value ∨ v ∈ m.values := mem_place h

end OrderedMap

namespace Document

/-- The documents that come from trees, by merging, and by supplying values. -/
inductive Built : Document → Prop
  | read {o : LoadOptions} {v : Value} {d : Document} (h : ofTree o v = .ok d) : Built d
  | merged {a b d : Document} (ha : Built a) (hb : Built b) (h : a.merge b = .ok d) : Built d
  | supplied {a d : Document} {name value : String} {encrypted : Bool} (ha : Built a)
      (h : a.supply name value encrypted = .ok d) : Built d

/-- The documents that come from trees that were read with some of these options. -/
inductive BuiltWith (allowed : LoadOptions → Prop) : Document → Prop
  | read {o : LoadOptions} {v : Value} {d : Document} (ho : allowed o) (h : ofTree o v = .ok d) :
    BuiltWith allowed d
  | merged {a b d : Document} (ha : BuiltWith allowed a) (hb : BuiltWith allowed b)
      (h : a.merge b = .ok d) : BuiltWith allowed d
  | supplied {a d : Document} {name value : String} {encrypted : Bool} (ha : BuiltWith allowed a)
      (h : a.supply name value encrypted = .ok d) : BuiltWith allowed d

theorem Built.with_any {d : Document} (h : Built d) : BuiltWith (fun _ => True) d := by
  induction h with
  | read h => exact .read trivial h
  | merged _ _ h iha ihb => exact .merged iha ihb h
  | supplied _ h ih => exact .supplied ih h

theorem BuiltWith.built {allowed : LoadOptions → Prop} {d : Document} (h : BuiltWith allowed d) :
    Built d := by
  induction h with
  | read _ h => exact .read h
  | merged _ _ h iha ihb => exact .merged iha ihb h
  | supplied _ h ih => exact .supplied ih h

theorem forall_addEntries {P : Parameter → Prop} {o : LoadOptions}
    (own : ∀ fields p, Parameter.ofFields o fields = .ok p → P p) {common entries : Mapping}
    {m n : OrderedMap Parameter} (hm : ∀ p ∈ m.values, P p)
    (h : addEntries o common entries m = .ok n) : ∀ p ∈ n.values, P p := by
  induction entries generalizing m with
  | nil => cases h; exact hm
  | cons e rest ih =>
    unfold addEntries at h
    split at h
    · cases h
    · split at h
      · exact ih hm h
      · obtain ⟨fields, -, h⟩ := ok_of_bind h
        obtain ⟨p, hp, h⟩ := ok_of_bind h
        refine ih (fun q hq => ?_) h
        rcases OrderedMap.mem_values_insert hq with rfl | hq
        · exact own _ _ hp
        · exact hm q hq

theorem ofMapping_ok {o : LoadOptions} {root : Mapping} {d : Document}
    (h : ofMapping o root = .ok d) :
    Input.ofSection ((root.get? inputKey).getD .null) = .ok d.inputs ∧
      (∃ common, commonFields root = .ok common ∧
        addEntries o common root .empty = .ok d.parameters) ∧
      flushSection root = .ok d.flushPaths := by
  obtain ⟨inputs, hi, h⟩ := ok_of_bind h
  obtain ⟨common, hc, h⟩ := ok_of_bind h
  obtain ⟨paths, hp, h⟩ := ok_of_bind h
  obtain ⟨parameters, he, h⟩ := ok_of_bind h
  cases h
  exact ⟨hi, ⟨common, hc, he⟩, hp⟩

theorem merge_ok {a b d : Document} (h : a.merge b = .ok d) :
    Input.merged a.inputs b.inputs = .ok d.inputs ∧
      d.parameters = b.parameters.entries.foldl (fun m e => m.insert e.1 e.2) a.parameters ∧
      d.flushPaths = a.flushPaths ++ b.flushPaths := by
  obtain ⟨inputs, hi, h⟩ := ok_of_bind h
  cases h
  exact ⟨hi, rfl, rfl⟩

theorem supply_ok {a d : Document} {name value : String} {encrypted : Bool}
    (h : a.supply name value encrypted = .ok d) :
    Input.supply a.inputs name value encrypted = .ok d.inputs ∧ d.parameters = a.parameters ∧
      d.flushPaths = a.flushPaths := by
  obtain ⟨inputs, hi, h⟩ := ok_of_bind h
  cases h
  exact ⟨hi, rfl, rfl⟩

theorem mem_values_foldl {l : List (String × Parameter)} {m : OrderedMap Parameter} {p : Parameter}
    (h : p ∈ (l.foldl (fun m e => m.insert e.1 e.2) m).values) :
    p ∈ m.values ∨ p ∈ l.map (·.2) := by
  induction l generalizing m with
  | nil => exact .inl h
  | cons e l ih =>
    rcases ih h with h | h
    · rcases OrderedMap.mem_values_insert h with rfl | h
      · exact .inr (by simp)
      · exact .inl h
    · exact .inr (List.mem_cons_of_mem _ h)

/-- What holds of all parameters that are read with these options holds of those of a document. -/
theorem BuiltWith.forall_values {P : Parameter → Prop} {allowed : LoadOptions → Prop}
    (own : ∀ o, allowed o → ∀ fields p, Parameter.ofFields o fields = .ok p → P p) {d : Document}
    (h : BuiltWith allowed d) : ∀ p ∈ d.parameters.values, P p := by
  induction h with
  | @read o v d ho h =>
    unfold ofTree at h
    split at h
    · cases h; exact fun p hp => by cases hp
    · obtain ⟨-, ⟨common, -, he⟩, -⟩ := ofMapping_ok h
      exact forall_addEntries (own o ho) (fun p hp => by cases hp) he
    · cases h
  | merged _ _ h iha ihb =>
    rw [(merge_ok h).2.1]
    intro p hp
    rcases mem_values_foldl hp with hp | hp
    · exact iha p hp
    · exact ihb p hp
  | supplied _ h ih =>
    rw [(supply_ok h).2.1]
    exact ih

theorem Built.sound {d : Document} (h : Built d) : ∀ p ∈ d.parameters.values, p.Sound :=
  h.with_any.forall_values fun _ _ _ _ => Parameter.ofFields_sound

theorem Built.stored {d : Document} (h : Built d) : Inputs.Stored d.inputs := by
  induction h with
  | @read o v d h =>
    unfold ofTree at h
    split at h
    · cases h; exact Inputs.each_empty
    · exact Inputs.stored_ofSection (ofMapping_ok h).1
    · cases h
  | merged _ _ h iha ihb => exact iha.merged ihb (merge_ok h).1
  | supplied _ h ih => exact ih.supply (supply_ok h).1

end Document

end ParamFile
