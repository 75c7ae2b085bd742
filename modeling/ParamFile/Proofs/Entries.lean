import ParamFile.Proofs.Bound
import ParamFile.Proofs.Fields
import ParamFile.Proofs.References

/-!
# Entries that are read again

An entry (`Document.Entry`) is what a document says about a parameter that was written down: its texts
stand for themselves, and its value is plain or ciphertext. When only names refer to variables, its
fields are read as the parameter that they were written for (`Entry.ofFields_fields`), and a document
of such entries as these parameters in their order (`ofTree_entries`). None of them has variables, so
the document resolves without inputs (`resolve_of_no_variables`).
-/

namespace ParamFile

/-- When only names refer to variables, all other texts stand for themselves. -/
theorem LoadOptions.template_of_nameOnly {o : LoadOptions} (h : o.varsInNameOnly = true) :
    o.template = .literal := by
  funext text
  rw [template, h]
  rfl

namespace Document

open ParamFile.Action Yaml

/-! ## Fields over others -/

theorem get?_override {own : Mapping} (nodup : (own.map (·.1)).Nodup) (m : Mapping)
    (name : String) : (override m own).get? name = (own.get? name).or (m.get? name) := by
  rw [get?_override_last, get?_reverse nodup]

theorem resolveOption_literal (b : Bindings) (s : Option String) :
    Parameter.resolveOption b (s.map .literal) = pure s := by
  cases s with
  | none => rfl
  | some s => simp [Parameter.resolveOption]

/-! ## Single entries -/

/-- What a document says about a parameter that was written down. -/
structure Entry where
  name : String
  kind : Kind
  /-- The value, or a ciphertext of it. -/
  text : String
  isEncrypted : Bool
  allowedPattern : Option String
  description : Option String
  keyId : Option String

namespace Entry

def field (e : Entry) : String := if e.isEncrypted then "EncryptedValue" else "Value"

def fields (e : Entry) : Mapping :=
  Parameter.dumped e.kind e.field (some e.text) e.allowedPattern e.description e.keyId

/-- The parameter that an entry describes when only its name refers to variables. -/
def parameter (e : Entry) : Parameter where
  name := { text := e.name }
  kind := e.kind
  content := some (.single (.literal e.text))
  isEncrypted := e.isEncrypted
  allowedPattern := e.allowedPattern.map .literal
  description := e.description
  keyId := e.keyId.map .literal

/-- An entry can be read: it has a key exactly if it is secret, and then its value is ciphertext,
unless it may be in the clear. -/
structure Admissible (o : LoadOptions) (e : Entry) : Prop where
  keyed : e.keyId.isSome = e.kind.isSecure
  secure : e.isEncrypted = true → e.kind.isSecure = true
  clear : e.kind.isSecure = true → e.isEncrypted = true ∨ o.allowSecureStringValue = true

theorem isValueField (e : Entry) : Parameter.IsValueField e.field := by
  unfold field
  split
  · exact .inr rfl
  · exact .inl rfl

theorem nodup_fields (e : Entry) : (e.fields.map (·.1)).Nodup :=
  Parameter.nodup_dumped _ _ _ _ _ e.isValueField

theorem get?_fragment (e : Entry) (name : String) :
    (fragment e.name [] e.fields).get? name =
      (e.fields.get? name).or (if name = "Name" then some (.string e.name) else none) := by
  rw [fragment, get?_override e.nodup_fields]
  by_cases h : name = "Name"
  · simp [override, Mapping.get?, h]
  · simp [override, Mapping.get?, h, Ne.symm h]

theorem textField_eq {m : Mapping} {field : String} {s : Option String}
    (h : m.get? field = s.map .string) (owner : String) :
    Parameter.textField m owner field = .ok s := by
  unfold Parameter.textField
  cases s with
  | none => rw [h]; rfl
  | some s => rw [h]; rfl

theorem textField_fragment (e : Entry) {field : String} {s : Option String}
    (h : e.fields.get? field = s.map .string) (ne : field ≠ "Name") :
    Parameter.textField (fragment e.name [] e.fields) e.name field = .ok s := by
  refine textField_eq ?_ e.name
  rw [get?_fragment, if_neg ne, Option.or_none, h]

theorem get?_fragment_other (e : Entry) {name : String}
    (h : name ∉ ["Name", "Type", e.field, "AllowedPattern", "Description", "KeyId"]) :
    (fragment e.name [] e.fields).get? name = none := by
  simp only [List.mem_cons, not_or] at h
  obtain ⟨hn, h⟩ := h
  rw [get?_fragment, if_neg hn, fields, Parameter.get?_dumped_other]
  · rfl
  · simpa only [List.mem_cons, not_or] using h

theorem get?_fragment_value (e : Entry) :
    (fragment e.name [] e.fields).get? e.field = some (.string e.text) := by
  rw [get?_fragment, fields, Parameter.get?_dumped_value _ _ _ _ _ e.isValueField]
  rfl

theorem plainContent_fragment (e : Entry) {o : LoadOptions} (nameOnly : o.varsInNameOnly = true)
    (plain : e.isEncrypted = false) :
    Parameter.plainContent o (fragment e.name [] e.fields) e.name =
      .ok (some (.single (.literal e.text))) := by
  have value := e.get?_fragment_value
  rw [field, plain] at value
  rw [Parameter.plainContent, show Mapping.get? _ "Value" = _ from value]
  simp only [Value.scalarText?, LoadOptions.template_of_nameOnly nameOnly]

theorem secureContent_fragment (e : Entry) {o : LoadOptions} (nameOnly : o.varsInNameOnly = true)
    (clear : e.isEncrypted = true ∨ o.allowSecureStringValue = true) (key : Template) :
    Parameter.secureContent o (fragment e.name [] e.fields) e.name key =
      .ok (some (.single (.literal e.text)), e.isEncrypted) := by
  have text := textField_eq (s := some e.text) e.get?_fragment_value e.name
  cases he : e.isEncrypted with
  | true =>
    rw [field, he, if_pos rfl] at text
    rw [Parameter.secureContent, text, ok_bind]
    dsimp only
    rw [LoadOptions.template_of_nameOnly nameOnly]
    rfl
  | false =>
    have allowed : o.allowSecureStringValue = true := by simpa [he] using clear
    have field_eq : e.field = "Value" := by rw [field, he]; rfl
    -- ciphertext and inputs are looked for before the plain value
    have absent : ∀ name ∈ ["EncryptedValue", "Input"], Parameter.textField
        (fragment e.name [] e.fields) e.name name = .ok none := by
      intro name hname
      refine textField_eq (s := none) ?_ e.name
      refine e.get?_fragment_other ?_
      rw [field_eq]
      revert name
      decide
    rw [field_eq] at text
    rw [Parameter.secureContent, absent _ (by simp), ok_bind, absent _ (by simp), ok_bind, text,
      ok_bind, allowed]
    rfl

theorem contentOf_fragment (e : Entry) {o : LoadOptions} (nameOnly : o.varsInNameOnly = true)
    (ok : e.Admissible o) :
    Parameter.contentOf o (fragment e.name [] e.fields) e.name e.kind (e.keyId.map .literal) =
      .ok (some (.single (.literal e.text)), e.isEncrypted) := by
  cases hk : e.kind.isSecure with
  | true =>
    obtain ⟨key, hkey⟩ := Option.isSome_iff_exists.1 (ok.keyed.trans hk)
    rw [(Kind.isSecure_iff _).1 hk, hkey]
    exact e.secureContent_fragment nameOnly (ok.clear hk) _
  | false =>
    have plain : e.isEncrypted = false := by
      cases he : e.isEncrypted with
      | true => rw [ok.secure he] at hk; cases hk
      | false => rfl
    have content := e.plainContent_fragment nameOnly plain
    unfold Parameter.contentOf
    split
    · rename_i secure _
      rw [secure] at hk
      cases hk
    · rw [content, plain]
      rfl

/-- The fields of an entry are read as the parameter that they were written for. -/
theorem ofFields_fields (e : Entry) {o : LoadOptions} (nameOnly : o.varsInNameOnly = true)
    (ok : e.Admissible o) :
    Parameter.ofFields o (fragment e.name [] e.fields) = .ok e.parameter := by
  have template := LoadOptions.template_of_nameOnly nameOnly
  have absent : ∀ name ∈ ["Overwrite", "Disable", "Disabled"],
      (fragment e.name [] e.fields).get? name = none := by
    intro name hname
    refine e.get?_fragment_other ?_
    rcases e.isValueField with h | h <;> rw [h] <;> revert name <;> decide
  have type := e.textField_fragment (s := some e.kind.text) (Parameter.get?_dumped_type ..)
    (by decide)
  have key := e.textField_fragment (Parameter.get?_dumped_keyId _ _ _ _ _ e.isValueField)
    (by decide)
  have pattern := e.textField_fragment (Parameter.get?_dumped_pattern _ _ _ _ _ e.isValueField)
    (by decide)
  have description := e.textField_fragment
    (Parameter.get?_dumped_description _ _ _ _ _ e.isValueField) (by decide)
  refine Parameter.ofFields_ok.2 ⟨e.name, ?_, rfl, ?_, ?_, ?_, ?_, ?_, description, ?_, ?_, rfl⟩
  · refine textField_eq (s := some e.name) ?_ _
    rw [get?_fragment, fields, Parameter.get?_dumped_other]
    · rfl
    · rcases e.isValueField with h | h <;> rw [h] <;> decide
  · rw [Parameter.kindOf, type, ok_bind]
    simp only [Kind.ofText?_text]
    rfl
  · rw [key, template]
    rfl
  · refine Parameter.checkKeyId_ok.2 ?_
    rw [parameter, Option.isSome_map]
    exact ok.keyed
  · exact e.contentOf_fragment nameOnly ok
  · rw [pattern, template]
    rfl
  · rw [Parameter.overwriteOf, absent _ (by simp)]
    rfl
  · rw [Parameter.disableOf, absent "Disable" (by simp), absent "Disabled" (by simp)]
    rfl

theorem variableNames_parameter {e : Entry} (plain : IsPlain e.name.toList) :
    e.parameter.variableNames = [] := by
  cases hp : e.allowedPattern <;> cases hk : e.keyId <;>
    simp [parameter, Parameter.variableNames, Content.variableNames, plain.variableNames, hp, hk]

/-- The parameter says what the entry says, and all its texts stand for themselves. -/
structure Stated (e : Entry) (p : Parameter) : Prop where
  kind : p.kind = e.kind
  content : p.content = some (.single (.literal e.text))
  isEncrypted : p.isEncrypted = e.isEncrypted
  allowedPattern : p.allowedPattern = e.allowedPattern.map .literal
  description : p.description = e.description
  keyId : p.keyId = e.keyId.map .literal
  disable : p.disable = none

theorem stated_parameter (e : Entry) : e.Stated e.parameter := ⟨rfl, rfl, rfl, rfl, rfl, rfl, rfl⟩

/-- What says the same as an entry is written down as its fields. -/
theorem Stated.dumpFields {e : Entry} {p : Parameter} (h : e.Stated p)
    (secure : e.isEncrypted = true → e.kind.isSecure = true) (b : Bindings) :
    p.dumpFields b = pure e.fields := by
  have pattern : p.readPattern b = pure e.allowedPattern := by
    rw [Parameter.readPattern, h.allowedPattern, resolveOption_literal]
  have keyId : p.readKeyId b = pure e.keyId := by
    rw [Parameter.readKeyId, h.keyId, resolveOption_literal]
  have raw : p.readRaw b = pure (some e.text) := by simp [Parameter.readRaw, h.content]
  have content : p.dumpContent b = pure (e.field, some e.text) := by
    cases he : e.isEncrypted with
    | true =>
      have hk : p.kind.isSecure = true := by rw [h.kind, secure he]
      rw [Parameter.dumpContent_encrypted hk (h.isEncrypted.trans he), raw, field, he]
      rfl
    | false =>
      have own : p.isFromInput = false := by rw [Parameter.isFromInput, h.content]; rfl
      have clear : p.isEncrypted = false := h.isEncrypted.trans he
      have value : p.readValue b = pure (some e.text) := by
        rw [Parameter.readValue, raw, clear]
        rfl
      rw [Parameter.dumpContent_plain clear own, value, field, he]
      rfl
  rw [Parameter.dumpFields_eq, content, pattern, keyId, h.kind, h.description]
  rfl

end Entry

/-! ## Documents of entries -/

/-- The document of some entries, behind the paths to flush. -/
def written (paths : List String) (es : List Entry) : Mapping :=
  flushEntry paths ++ es.map fun e => (.string e.name, .map e.fields)

theorem get?_flushEntry {name : String} (ne : name ≠ flushKey) (paths : List String) :
    (flushEntry paths).get? name = none := by
  unfold flushEntry
  split <;> simp [Mapping.get?, Ne.symm ne]

section
variable {es : List Entry} (unreserved : ∀ e ∈ es, isReserved e.name = false)
include unreserved

theorem get?_written_reserved {name : String} (reserved : isReserved name = true)
    (paths : List String) : (written paths es).get? name = (flushEntry paths).get? name := by
  have absent : Value.string name ∉
      (es.map fun e => (Value.string e.name, Value.map e.fields)).map (·.1) := by
    rw [List.map_map]
    intro listed
    obtain ⟨e, he, eq⟩ := List.mem_map.1 listed
    have other := unreserved e he
    rw [show e.name = name from Value.string.inj eq, reserved] at other
    cases other
  rw [written, get?_append, get?_eq_none_of_notMem absent, Option.or_none]

theorem flushSection_written (paths : List String) :
    flushSection (written paths es) = .ok paths := by
  rw [flushSection, get?_written_reserved unreserved (by decide)]
  rcases paths with _ | ⟨path, _ | ⟨other, rest⟩⟩
  · rfl
  · rfl
  · have listed : ∀ l : List String, (l.map Value.string).mapM flushPath = .ok l := fun l =>
      mapM_ok.2 (List.forall₂_map_left_iff.2 (List.forall₂_same.2 fun _ _ => rfl))
    exact listed (path :: other :: rest)

end

theorem place_of_absent {α : Type} {name : String} {value : α} {l : List (String × α)}
    (h : name ∉ l.map (·.1)) : OrderedMap.place name value l = l ++ [(name, value)] := by
  fun_induction OrderedMap.place name value l with
  | case1 => rfl
  | case2 v rest => simp at h
  | case3 k v rest ne ih =>
    simp only [List.map_cons, List.mem_cons, not_or] at h
    rw [ih h.2]
    rfl

section
variable {o : LoadOptions} (nameOnly : o.varsInNameOnly = true) {es : List Entry}
  (ok : ∀ e ∈ es, e.Admissible o) (unreserved : ∀ e ∈ es, isReserved e.name = false)
  (nodup : (es.map (·.name)).Nodup)
include nameOnly ok unreserved nodup

/-- Entries of new names are read as the parameters that they were written for, in their order. -/
theorem addEntries_entries {ps : OrderedMap Parameter} (fresh : ∀ e ∈ es, e.name ∉ ps.keys) :
    ∃ qs, addEntries o [] (es.map fun e => (.string e.name, .map e.fields)) ps = .ok qs ∧
      qs.entries = ps.entries ++ es.map fun e => (e.name, e.parameter) := by
  induction es generalizing ps with
  | nil => exact ⟨ps, rfl, (List.append_nil _).symm⟩
  | cons e rest ih =>
    simp only [List.map_cons, List.nodup_cons] at nodup
    have absent : e.name ∉ ps.keys := fresh e List.mem_cons_self
    have later : ∀ x ∈ rest, x.name ∉ (ps.insert e.name e.parameter).keys := by
      intro x hx
      rw [OrderedMap.keys_insert, if_neg absent, List.mem_append, not_or]
      refine ⟨fresh x (List.mem_cons_of_mem _ hx), fun eq => nodup.1 ?_⟩
      exact List.mem_map.2 ⟨x, hx, List.mem_singleton.1 eq⟩
    obtain ⟨qs, added, eq⟩ := ih (fun x hx => ok x (List.mem_cons_of_mem _ hx))
      (fun x hx => unreserved x (List.mem_cons_of_mem _ hx)) nodup.2 later
    refine ⟨qs, ?_, ?_⟩
    · rw [List.map_cons, addEntries]
      simp only [Value.scalarText?, unreserved e List.mem_cons_self, Bool.false_eq_true, if_false,
        entryFields, ok_bind, e.ofFields_fields nameOnly (ok e List.mem_cons_self)]
      exact added
    · rw [eq, show (ps.insert e.name e.parameter).entries = _ from place_of_absent absent,
        List.append_assoc]
      rfl

/-- The document of some entries is read as their parameters, with the paths to flush. -/
theorem ofTree_entries (paths : List String) :
    ∃ d, ofTree o (.map (written paths es)) = .ok d ∧ d.inputs = .empty ∧
      d.parameters.entries = (es.map fun e => (e.name, e.parameter)) ∧ d.flushPaths = paths := by
  have fresh : ∀ e ∈ es, e.name ∉ (OrderedMap.empty : OrderedMap Parameter).keys :=
    fun _ _ h => by cases h
  obtain ⟨ps, added, eq⟩ := addEntries_entries nameOnly ok unreserved nodup fresh
  have all : addEntries o [] (written paths es) .empty = .ok ps := by
    rw [← added, written]
    rcases paths with _ | ⟨path, _ | ⟨other, rest⟩⟩ <;> rfl
  have inputs : (written paths es).get? inputKey = none := by
    rw [get?_written_reserved unreserved (by decide), get?_flushEntry (by decide)]
  have common : commonFields (written paths es) = .ok [] := by
    rw [commonFields, get?_written_reserved unreserved (by decide), get?_flushEntry (by decide)]
  refine ⟨{ parameters := ps, flushPaths := paths }, ?_, rfl, eq, rfl⟩
  have none : Input.ofSection ((none : Option Value).getD .null) = .ok .empty := rfl
  rw [ofTree, ofMapping, inputs, none, common, flushSection_written unreserved]
  simp only [ok_bind, all]
  rfl

end

/-- What says the same as some entries, under their names, is compiled to them. -/
theorem compileEntries_stated {α : Type} {b : Bindings} {l : List α} (param : α → Parameter)
    (entry : α → Entry)
    (h : ∀ x ∈ l, (entry x).Stated (param x) ∧
      ((entry x).isEncrypted = true → (entry x).kind.isSecure = true) ∧
      (param x).readName b = pure (entry x).name)
    (ignoreDisabled : Bool) (m : Mapping) :
    compileEntries b ignoreDisabled (l.map param) m =
      pure (withEntries m (l.map fun x => ((entry x).name, (entry x).fields))) := by
  induction l generalizing m with
  | nil => rfl
  | cons x rest ih =>
    obtain ⟨stated, secure, name⟩ := h x List.mem_cons_self
    have enabled : skips b ignoreDisabled (param x) = pure false := by
      rw [skips, Parameter.readDisabled, stated.disable, ite_self]
    have later := ih (fun y hy => h y (List.mem_cons_of_mem _ hy))
      (m.insert (entry x).name (.map (entry x).fields))
    rw [List.map_cons, compileEntries_cons, enabled, name, stated.dumpFields secure]
    exact later

/-! ## Documents without variables -/

/-- Nothing that is read of plain names under plain paths has variables. -/
theorem variableNames_of_entries {d : Document} {es : List Entry} {paths : List String}
    (parameters : d.parameters.entries = es.map fun e => (e.name, e.parameter))
    (flushPaths : d.flushPaths = paths) (names : ∀ e ∈ es, IsPlain e.name.toList)
    (plain : ∀ path ∈ paths, IsPlain path.toList) : d.variableNames = .empty := by
  have own : d.parameters.values.flatMap Parameter.variableNames = [] := by
    rw [OrderedMap.values, parameters, List.map_map, List.flatMap_eq_nil_iff]
    intro p hp
    obtain ⟨e, he, rfl⟩ := List.mem_map.1 hp
    exact Entry.variableNames_parameter (names e he)
  have flushed : d.flushPaths.flatMap (fun path => (flushTemplate path).variableNames) = [] := by
    rw [flushPaths, List.flatMap_eq_nil_iff]
    exact fun path hp => (plain path hp).variableNames
  rw [variableNames, own, flushed]
  rfl

/-- A document without variables resolves without inputs, and nothing is asked for. -/
theorem resolve_of_no_variables {d : Document} (none : d.variableNames = .empty) (asking : Bool)
    (echo : Option Bool) (p : Prompter) :
    (d.resolve asking echo).runOn p = (.ok (d.bound .empty), p) := by
  rw [resolve, runOn_mk, resolveWith, none]
  rfl

end Document

end ParamFile
