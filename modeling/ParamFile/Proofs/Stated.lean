import ParamFile.Proofs.Loaded

/-!
# What fields say

A null field says as little as one that is not there (`Mapping.stated`). Texts, values and whether a
parameter may be stored already are read from what the fields say (`textField_eq` and its siblings);
the kind also asks whether a key id is there at all (`kindOf_congr`).

Whether the parameter is disabled is read last, and from two fields that nothing else looks at. So a
parameter is what the other fields say (`undisabled`), with its condition put in
(`ofFields_eq_disable`). Two mappings that say the same apart from the condition therefore differ in
nothing else (`ofFields_undisabled_congr`).
-/

namespace ParamFile

open Yaml

/-! ## Fields of a mapping -/

namespace Yaml.Mapping

/-- What a field says; a null field says nothing. -/
def stated (m : Mapping) (name : String) : Option Value :=
  (m.get? name).filter fun v => !v.isNull

theorem stated_of_get? {m m' : Mapping} {name : String} (h : m.get? name = m'.get? name) :
    m.stated name = m'.stated name := by
  rw [stated, stated, h]

theorem get?_of_stated {m : Mapping} {name : String} {v : Value} (h : m.stated name = some v) :
    m.get? name = some v :=
  (Option.filter_eq_some_iff.1 h).1

theorem get?_erase (m : Mapping) (name other : String) :
    (m.erase name).get? other = if other = name then none else m.get? other := by
  induction m with
  | nil => simp [erase]
  | cons e rest ih =>
    obtain ⟨k, v⟩ := e
    rw [erase] at ih ⊢
    cases k with
    | string k =>
      by_cases same : k = name
      · subst same
        by_cases asked : other = k
        · simpa [asked] using ih
        · simpa [get?, asked, Ne.symm asked] using ih
      · by_cases asked : k = other
        · subst asked
          simp [get?, same]
        · simpa [get?, same, asked] using ih
    | _ => simpa [get?] using ih

theorem get?_erase_of_ne {name other : String} (ne : other ≠ name) (m : Mapping) :
    (m.erase name).get? other = m.get? other := by
  rw [get?_erase, if_neg ne]

end Yaml.Mapping

namespace Parameter

variable {o : LoadOptions} {m m' : Mapping}

/-! ## Single fields -/

theorem textField_eq (m : Mapping) (owner field : String) :
    textField m owner field = match m.stated field with
      | none => .ok none
      | some v =>
        match v.scalarText? with
        | some s => .ok (some s)
        | none => .error (.invalidField owner field .scalar) := by
  rw [textField, Mapping.stated]
  cases m.get? field with
  | none => rfl
  | some v => cases v <;> rfl

theorem plainContent_eq (o : LoadOptions) (m : Mapping) (name : String) :
    plainContent o m name = match m.stated "Value" with
      | none => .ok none
      | some (.seq items) => (listItems o name items).map fun items => some (.list items)
      | some v =>
        match v.scalarText? with
        | some s => .ok (some (.single (o.template s)))
        | none => .error (.invalidField name "Value" .scalarOrList) := by
  rw [plainContent, Mapping.stated]
  cases m.get? "Value" with
  | none => rfl
  | some v => cases v <;> rfl

theorem overwriteOf_eq (m : Mapping) (name : String) :
    overwriteOf m name = match m.stated "Overwrite" with
      | none => .ok none
      | some v =>
        match flag? v with
        | some b => .ok (some b)
        | none => .error (.invalidField name "Overwrite" .boolean) := by
  rw [overwriteOf, Mapping.stated]
  cases m.get? "Overwrite" with
  | none => rfl
  | some v => cases v <;> rfl

theorem textField_congr {field : String} (h : m.stated field = m'.stated field) (owner : String) :
    textField m owner field = textField m' owner field := by
  rw [textField_eq, textField_eq, h]

theorem textField_eq_none {owner field : String} :
    textField m owner field = .ok none ↔ m.stated field = none := by
  rw [textField_eq]
  cases m.stated field with
  | none => simp
  | some v => cases h : v.scalarText? <;> simp [h]

theorem stated_of_textField {owner field s : String} (h : textField m owner field = .ok (some s)) :
    (m.stated field).isSome = true := by
  cases hs : m.stated field with
  | some v => rfl
  | none =>
    rw [textField_eq_none.2 hs] at h
    cases h

theorem secureContent_congr (encrypted : m.stated "EncryptedValue" = m'.stated "EncryptedValue")
    (input : m.stated "Input" = m'.stated "Input") (value : m.stated "Value" = m'.stated "Value")
    (name : String) (key : Template) :
    secureContent o m name key = secureContent o m' name key := by
  rw [secureContent, secureContent, textField_congr encrypted, textField_congr input,
    textField_congr value]

theorem contentOf_congr (encrypted : m.stated "EncryptedValue" = m'.stated "EncryptedValue")
    (input : m.stated "Input" = m'.stated "Input") (value : m.stated "Value" = m'.stated "Value")
    (name : String) (kind : Kind) (key : Option Template) :
    contentOf o m name kind key = contentOf o m' name kind key := by
  unfold contentOf
  split
  · exact secureContent_congr encrypted input value name _
  · rw [plainContent_eq, plainContent_eq, value]

/-- Whether the value is a list shows in what the field says. -/
theorem kindOf_eq (m : Mapping) (name : String) :
    kindOf m name = do
      match ← textField m name "Type" with
      | some text =>
        match Kind.ofText? text with
        | some kind => return kind
        | none => .error (.unknownKind text)
      | none =>
        if (m.get? "KeyId").isSome then return .secureString
        else
          match m.stated "Value" with
          | some (.seq _) => return .stringList
          | _ => return .string := by
  rw [kindOf, Mapping.stated]
  cases m.get? "Value" with
  | none => rfl
  | some v => cases v <;> rfl

/-- The kind is the same if it is stated, or if a key id is there in both or in neither. -/
theorem kindOf_congr (type : m.stated "Type" = m'.stated "Type")
    (value : m.stated "Value" = m'.stated "Value")
    (key : (m.stated "Type").isSome = true ∨
      (m.get? "KeyId").isSome = (m'.get? "KeyId").isSome) (name : String) :
    kindOf m name = kindOf m' name := by
  rw [kindOf_eq, kindOf_eq, textField_congr type, value]
  rcases key with typed | key
  · have read : textField m' name "Type" ≠ .ok none := by
      rw [Ne, textField_eq_none, ← type]
      exact fun none => by rw [none] at typed; cases typed
    cases ht : textField m' name "Type" with
    | error e => rfl
    | ok text =>
      cases text with
      | none => exact absurd ht read
      | some text => rfl
  · rw [key]

/-! ## The condition -/

/-- The fields that do not say whether the parameter is disabled. -/
def undisabled (m : Mapping) : Mapping := (m.erase "Disable").erase "Disabled"

theorem get?_undisabled (m : Mapping) (field : String) :
    (undisabled m).get? field =
      if field = "Disable" ∨ field = "Disabled" then none else m.get? field := by
  rw [undisabled, Mapping.get?_erase, Mapping.get?_erase]
  by_cases first : field = "Disable" <;> by_cases second : field = "Disabled" <;> simp [first, second]

theorem get?_undisabled_of_ne {field : String} (first : field ≠ "Disable")
    (second : field ≠ "Disabled") (m : Mapping) : (undisabled m).get? field = m.get? field := by
  rw [get?_undisabled, if_neg (not_or.2 ⟨first, second⟩)]

@[simp] theorem disableOf_undisabled (o : LoadOptions) (m : Mapping) (name : String) :
    disableOf o (undisabled m) name = .ok none := by
  simp [disableOf, get?_undisabled]

theorem disableOf_congr (first : m.get? "Disable" = m'.get? "Disable")
    (second : m.get? "Disable" = none → m.get? "Disabled" = m'.get? "Disabled") (name : String) :
    disableOf o m name = disableOf o m' name := by
  unfold disableOf
  cases h : m.get? "Disable" with
  | some v =>
    rw [← first, h]
    rfl
  | none => rw [← first, h, second h]

theorem kindOf_of_get?
    (same : ∀ field, field ≠ "Disable" → field ≠ "Disabled" → m.get? field = m'.get? field)
    (name : String) : kindOf m name = kindOf m' name := by
  refine kindOf_congr ?_ ?_ (.inr ?_) name
  · exact Mapping.stated_of_get? (same "Type" (by decide) (by decide))
  · exact Mapping.stated_of_get? (same "Value" (by decide) (by decide))
  · rw [same "KeyId" (by decide) (by decide)]

@[simp] theorem kindOf_undisabled (m : Mapping) (name : String) :
    kindOf (undisabled m) name = kindOf m name :=
  kindOf_of_get? (fun _ first second => get?_undisabled_of_ne first second m) name

/-! ## All fields -/

/-- A parameter with its condition put in. -/
def withDisable (p : Parameter) (disable : Option Disable) : Parameter := { p with disable }

/-- A parameter is what the other fields say, with its condition put in. -/
theorem ofFields_eq_disable (o : LoadOptions) (m : Mapping) :
    ofFields o m = ofFields o (undisabled m) >>= fun p =>
      (disableOf o m p.name.text).map p.withDisable := by
  have text (owner field : String) (first : field ≠ "Disable") (second : field ≠ "Disabled") :
      textField (undisabled m) owner field = textField m owner field :=
    textField_congr (Mapping.stated_of_get? (get?_undisabled_of_ne first second m)) owner
  have content (name : String) (kind : Kind) (key : Option Template) :
      contentOf o (undisabled m) name kind key = contentOf o m name kind key := by
    refine contentOf_congr ?_ ?_ ?_ name kind key <;>
      exact Mapping.stated_of_get? (get?_undisabled_of_ne (by decide) (by decide) m)
  have overwrite (name : String) : overwriteOf (undisabled m) name = overwriteOf m name := by
    simp [overwriteOf, get?_undisabled]
  rw [ofFields_eq, ofFields_eq, text "parameter" "Name" (by decide) (by decide)]
  cases textField m "parameter" "Name" with
  | error e => rfl
  | ok name? =>
    cases name? with
    | none => rfl
    | some name =>
      simp only [ok_bind, bind_assoc, kindOf_undisabled, content, overwrite, disableOf_undisabled,
        text name "KeyId" (by decide) (by decide),
        text name "AllowedPattern" (by decide) (by decide),
        text name "Description" (by decide) (by decide), pure_bind]
      refine bind_congr fun kind => bind_congr fun key => bind_congr fun _ => bind_congr fun content =>
        bind_congr fun pattern => bind_congr fun description => bind_congr fun overwrite => ?_
      cases disableOf o m name <;> rfl

section
variable (same : ∀ field, field ≠ "Disable" → field ≠ "Disabled" → m.stated field = m'.stated field)
  (kind : ∀ name, kindOf m name = kindOf m' name)
include same kind

/-- Mappings that say the same, of a kind and with a condition that are the same, are read the same. -/
theorem ofFields_congr (disable : ∀ name, disableOf o m name = disableOf o m' name) :
    ofFields o m = ofFields o m' := by
  have text (owner field : String) (first : field ≠ "Disable") (second : field ≠ "Disabled") :
      textField m owner field = textField m' owner field :=
    textField_congr (same field first second) owner
  have content (name : String) (kind : Kind) (key : Option Template) :
      contentOf o m name kind key = contentOf o m' name kind key := by
    refine contentOf_congr ?_ ?_ ?_ name kind key <;> exact same _ (by decide) (by decide)
  have overwrite (name : String) : overwriteOf m name = overwriteOf m' name := by
    rw [overwriteOf_eq, overwriteOf_eq, same _ (by decide) (by decide)]
  rw [ofFields_eq, ofFields_eq, text "parameter" "Name" (by decide) (by decide)]
  refine bind_congr fun name? => ?_
  cases name? with
  | none => rfl
  | some name =>
    simp only [kind, content, overwrite, disable,
      text name "KeyId" (by decide) (by decide),
      text name "AllowedPattern" (by decide) (by decide),
      text name "Description" (by decide) (by decide)]

/-- Mappings that say the same apart from the condition are read the same apart from it. -/
theorem ofFields_undisabled_congr : ofFields o (undisabled m) = ofFields o (undisabled m') := by
  have kept {m : Mapping} (field : String) (first : field ≠ "Disable") (second : field ≠ "Disabled") :
      (undisabled m).stated field = m.stated field :=
    Mapping.stated_of_get? (get?_undisabled_of_ne first second m)
  refine ofFields_congr (fun field first second => ?_) (fun name => ?_) fun name => ?_
  · rw [kept field first second, kept field first second, same field first second]
  · rw [kindOf_undisabled, kindOf_undisabled, kind]
  · rw [disableOf_undisabled, disableOf_undisabled]

end

/-- Mappings with the same other fields and the same condition are read the same. -/
theorem ofFields_of_get?
    (same : ∀ field, field ≠ "Disable" → field ≠ "Disabled" → m.get? field = m'.get? field)
    (disable : ∀ name, disableOf o m name = disableOf o m' name) : ofFields o m = ofFields o m' :=
  ofFields_congr (fun field first second => Mapping.stated_of_get? (same field first second))
    (kindOf_of_get? same) disable

end Parameter

end ParamFile
