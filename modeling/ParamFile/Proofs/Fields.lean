import Mathlib.Data.List.Induction
import ParamFile.Proofs.Loaded

/-!
# Fields that are written down

`Parameter.dumped` are the fields that are written for a parameter, from what was read of it
(`dumpFields_eq`). Each field reads as it was written (`get?_dumped_type` and its siblings), and the
value stands in its place among the others (`dumped_insert`). A field that is put over others reads as
it was put there last (`get?_override_last`).
-/

namespace ParamFile.Parameter

open Yaml

/-! ## The value -/

theorem dumpContent_encrypted {p : Parameter} (hk : p.kind.isSecure = true)
    (he : p.isEncrypted = true) (b : Bindings) :
    p.dumpContent b = (fun value => ("EncryptedValue", value)) <$> p.readRaw b := by
  simp only [dumpContent, hk, he, Bool.and_self, if_true, map_eq_pure_bind]

theorem dumpContent_input {p : Parameter} (hk : p.kind.isSecure = true)
    (he : p.isEncrypted = false) (hi : p.isFromInput = true) (b : Bindings) :
    p.dumpContent b = (do
      let value ← p.readValue b
      let keyId ← p.readKeyId b
      match value, keyId with
      | some value, some keyId => return ("EncryptedValue", some (← Client.encrypt value keyId))
      | _, _ => return ("EncryptedValue", none)) := by
  rw [dumpContent, hk, he, hi]
  rfl

theorem dumpContent_plain {p : Parameter} (he : p.isEncrypted = false)
    (hi : p.isFromInput = false) (b : Bindings) :
    p.dumpContent b = (fun value => ("Value", value)) <$> p.readValue b := by
  simp only [dumpContent, he, hi, Bool.and_false, Bool.false_eq_true, if_false, map_eq_pure_bind]

/-! ## All fields -/

/-- The fields of a parameter of which all was read that is written; `field` holds the value. -/
def dumped (kind : Kind) (field : String) (value pattern description keyId : Option String) :
    Mapping :=
  withText
    (withText
      (withText [(.string "Type", .string kind.text), (.string field, optionValue value)]
        "AllowedPattern" pattern)
      "Description" description)
    "KeyId" keyId

theorem dumpFields_eq (p : Parameter) (b : Bindings) :
    p.dumpFields b = (do
      let content ← p.dumpContent b
      let pattern ← p.readPattern b
      let keyId ← p.readKeyId b
      return dumped p.kind content.1 content.2 pattern p.description keyId) := rfl

theorem get?_withText (m : Mapping) (field other : String) (s : Option String) :
    (withText m field s).get? other =
      if other = field then s.elim (m.get? other) fun s => some (.string s) else m.get? other := by
  cases s with
  | none => simp [withText]
  | some s => simp [withText, Mapping.get?_insert]

section
variable (kind : Kind) {field : String} (value pattern description keyId : Option String)

def IsValueField (field : String) : Prop := field = "Value" ∨ field = "EncryptedValue"

theorem get?_dumped_type :
    (dumped kind field value pattern description keyId).get? "Type" =
      some (.string kind.text) := by
  simp [dumped, get?_withText, Mapping.get?]

theorem get?_dumped_value (h : IsValueField field) :
    (dumped kind field value pattern description keyId).get? field = some (optionValue value) := by
  rcases h with rfl | rfl <;> simp [dumped, get?_withText, Mapping.get?]

theorem get?_dumped_pattern (h : IsValueField field) :
    (dumped kind field value pattern description keyId).get? "AllowedPattern" =
      pattern.map .string := by
  rcases h with rfl | rfl <;> cases pattern <;> simp [dumped, get?_withText, Mapping.get?]

theorem get?_dumped_description (h : IsValueField field) :
    (dumped kind field value pattern description keyId).get? "Description" =
      description.map .string := by
  rcases h with rfl | rfl <;> cases description <;> simp [dumped, get?_withText, Mapping.get?]

theorem get?_dumped_keyId (h : IsValueField field) :
    (dumped kind field value pattern description keyId).get? "KeyId" = keyId.map .string := by
  rcases h with rfl | rfl <;> cases keyId <;> simp [dumped, get?_withText, Mapping.get?]

theorem get?_dumped_other {other : String}
    (ho : other ∉ ["Type", field, "AllowedPattern", "Description", "KeyId"]) :
    (dumped kind field value pattern description keyId).get? other = none := by
  simp only [List.mem_cons, List.not_mem_nil, or_false, not_or] at ho
  obtain ⟨ht, hf, hp, hd, hk⟩ := ho
  simp [dumped, get?_withText, Mapping.get?, hp, hd, hk, Ne.symm ht, Ne.symm hf]

theorem withText_cons {k field : String} (ne : k ≠ field) (v : Value) (m : Mapping)
    (s : Option String) :
    withText ((.string k, v) :: m) field s = (.string k, v) :: withText m field s := by
  cases s <;> simp [withText, Mapping.insert, ne]

theorem dumped_insert (h : IsValueField field) (other : Option String) :
    (dumped kind field value pattern description keyId).insert field (optionValue other) =
      dumped kind field other pattern description keyId := by
  rcases h with rfl | rfl <;> simp [dumped, withText_cons, Mapping.insert]

theorem nodup_dumped (h : IsValueField field) :
    ((dumped kind field value pattern description keyId).map (·.1)).Nodup := by
  rcases h with rfl | rfl <;> cases pattern <;> cases description <;> cases keyId <;>
    simp [dumped, withText, Mapping.insert]

end

end ParamFile.Parameter

namespace ParamFile.Document

open Yaml

/-! ## Entries -/

/-- A document with some entries written into it, one behind the other. -/
def withEntries (m : Mapping) (entries : List (String × Mapping)) : Mapping :=
  entries.foldl (fun m e => m.insert e.1 (.map e.2)) m

theorem get?_append (m l : Mapping) (name : String) :
    Mapping.get? (m ++ l) name = (m.get? name).or (l.get? name) := by
  induction m with
  | nil => rfl
  | cons e rest ih =>
    obtain ⟨k, v⟩ := e
    cases k with
    | string k =>
      simp only [List.cons_append, Mapping.get?]
      split
      · rfl
      · exact ih
    | _ => exact ih

theorem isSome_get? {m : Mapping} {name : String} :
    (m.get? name).isSome = true ↔ .string name ∈ m.map (·.1) := by
  induction m with
  | nil => simp
  | cons e rest ih =>
    obtain ⟨k, v⟩ := e
    cases k with
    | string k =>
      by_cases same : k = name
      · simp [Mapping.get?, same]
      · rw [Mapping.get?, if_neg same, ih]
        simp [Ne.symm same]
    | _ => simpa [Mapping.get?] using ih

theorem get?_eq_none_of_notMem {m : Mapping} {name : String} (h : .string name ∉ m.map (·.1)) :
    m.get? name = none :=
  Option.not_isSome_iff_eq_none.1 (mt isSome_get?.1 h)

/-- A field reads as it was put over others last, and as before where it was not. -/
theorem get?_override_last (m own : Mapping) (field : String) :
    (override m own).get? field = (Mapping.get? own.reverse field).or (m.get? field) := by
  induction own generalizing m with
  | nil => rfl
  | cons e rest ih =>
    obtain ⟨k, v⟩ := e
    have step : override m ((k, v) :: rest) = override (override m [(k, v)]) rest := rfl
    rw [step, ih, List.reverse_cons, get?_append, Option.or_assoc]
    congr 1
    cases k with
    | string k =>
      by_cases same : k = field
      · simp [override, Mapping.get?, same]
      · simp [override, Mapping.get?_insert, Mapping.get?, same, Ne.symm same]
    | _ => rfl

theorem get?_reverse {m : Mapping} (nodup : (m.map (·.1)).Nodup) (name : String) :
    Mapping.get? m.reverse name = m.get? name := by
  induction m with
  | nil => rfl
  | cons e rest ih =>
    obtain ⟨k, v⟩ := e
    simp only [List.map_cons, List.nodup_cons] at nodup
    rw [List.reverse_cons, get?_append, ih nodup.2]
    cases k with
    | string field =>
      by_cases same : field = name
      · subst same
        simp [Mapping.get?, get?_eq_none_of_notMem nodup.1]
      · simp [Mapping.get?, same]
    | _ => simp [Mapping.get?]

/-- What is not there yet is written behind what is. -/
theorem insert_append {m : Mapping} {name : String} (h : m.get? name = none) (l : Mapping)
    (v : Value) : (m ++ l).insert name v = m ++ l.insert name v := by
  induction m with
  | nil => rfl
  | cons e rest ih =>
    obtain ⟨k, w⟩ := e
    cases k with
    | string k =>
      simp only [Mapping.get?] at h
      split at h
      · cases h
      · rename_i ne
        simp only [List.cons_append, Mapping.insert, if_neg ne, ih h]
    | _ =>
      simp only [Mapping.get?] at h
      simp only [List.cons_append, Mapping.insert, ih h]

theorem insert_of_absent {m : Mapping} {name : String} (h : m.get? name = none) (v : Value) :
    m.insert name v = m ++ [(.string name, v)] := by
  have behind := insert_append h [] v
  rwa [List.append_nil] at behind

/-- Entries of different names, none of which is there yet, come behind each other. -/
theorem withEntries_of_nodup {entries : List (String × Mapping)} {m : Mapping}
    (nodup : (entries.map (·.1)).Nodup) (fresh : ∀ e ∈ entries, m.get? e.1 = none) :
    withEntries m entries = m ++ entries.map fun e => (.string e.1, .map e.2) := by
  induction entries generalizing m with
  | nil => simp [withEntries]
  | cons e rest ih =>
    simp only [List.map_cons, List.nodup_cons] at nodup
    have later : ∀ x ∈ rest, (m.insert e.1 (.map e.2)).get? x.1 = none := by
      intro x hx
      rw [Mapping.get?_insert, if_neg]
      · exact fresh x (List.mem_cons_of_mem _ hx)
      · exact fun eq => nodup.1 (List.mem_map.2 ⟨x, hx, eq⟩)
    have step := ih nodup.2 later
    rw [withEntries, List.foldl_cons]
    refine step.trans ?_
    rw [insert_of_absent (fresh e List.mem_cons_self), List.append_assoc]
    rfl

theorem withEntries_concat (m : Mapping) (entries : List (String × Mapping))
    (e : String × Mapping) :
    withEntries m (entries ++ [e]) = (withEntries m entries).insert e.1 (.map e.2) := by
  simp [withEntries]

/-- Where an entry was written, the last one of its name stands. -/
theorem exists_get?_withEntries {m : Mapping} {entries : List (String × Mapping)} {name : String}
    (h : name ∈ entries.map (·.1)) :
    ∃ fields, (withEntries m entries).get? name = some (.map fields) := by
  induction entries using List.reverseRecOn with
  | nil => cases h
  | append_singleton entries e ih =>
    rw [withEntries_concat, Mapping.get?_insert]
    split
    · exact ⟨e.2, rfl⟩
    · rename_i other
      refine ih ?_
      rw [List.map_append, List.mem_append] at h
      rcases h with h | h
      · exact h
      · exact absurd (by simpa using h) other

section
variable {α : Type} {name : α → String} {m : Mapping}

theorem insert_listed (fields : α → Mapping) {l : List α} {y : α} (nodup : (l.map name).Nodup)
    (listed : name y ∈ l.map name) :
    Mapping.insert (l.map fun x => (.string (name x), .map (fields x))) (name y)
        (.map (fields y)) =
      (l.map fun x => if name x = name y then y else x).map
        fun x => (.string (name x), .map (fields x)) := by
  induction l with
  | nil => cases listed
  | cons x rest ih =>
    simp only [List.map_cons, List.nodup_cons] at nodup
    by_cases here : name x = name y
    · have others : ∀ z ∈ rest, name z ≠ name y := by
        intro z hz eq
        exact nodup.1 (List.mem_map.2 ⟨z, hz, eq.trans here.symm⟩)
      have kept : (rest.map fun z => if name z = name y then y else z) = rest :=
        (List.map_congr_left fun z hz => if_neg (others z hz)).trans (List.map_id rest)
      simp only [List.map_cons, Mapping.insert, if_pos here, kept]
      rw [here]
    · have later : name y ∈ rest.map name := by simpa [Ne.symm here] using listed
      simp only [List.map_cons, Mapping.insert, if_neg here, ih nodup.2 later]

/-- Entries none of which is there yet come behind each other: each name where it is mentioned first,
with the entry that it is mentioned with last. -/
theorem withEntries_of_fresh (fields : α → Mapping) {l : List α}
    (fresh : ∀ x ∈ l, m.get? (name x) = none) :
    ∃ l' : List α, (∀ x ∈ l', x ∈ l) ∧ (∀ x ∈ l, name x ∈ l'.map name) ∧ (l'.map name).Nodup ∧
      withEntries m (l.map fun x => (name x, fields x)) =
        m ++ l'.map fun x => (.string (name x), .map (fields x)) := by
  induction l using List.reverseRecOn with
  | nil => exact ⟨[], by simp [withEntries]⟩
  | append_singleton l y ih =>
    obtain ⟨l', sub, all, nodup, eq⟩ := ih fun x hx => fresh x (by simp [hx])
    rw [List.map_append, List.map_singleton, withEntries_concat, eq,
      insert_append (fresh y (by simp))]
    by_cases listed : name y ∈ l'.map name
    · have names : (l'.map fun x => if name x = name y then y else x).map name = l'.map name := by
        rw [List.map_map]
        refine List.map_congr_left fun x _ => ?_
        by_cases same : name x = name y <;> simp [same]
      refine ⟨l'.map fun x => if name x = name y then y else x, fun x hx => ?_, fun x hx => ?_, ?_,
        by rw [insert_listed fields nodup listed]⟩
      · obtain ⟨z, hz, rfl⟩ := List.mem_map.1 hx
        split
        · simp
        · simp [sub z hz]
      · rw [names]
        rcases List.mem_append.1 hx with hx | hx
        · exact all x hx
        · rwa [List.mem_singleton.1 hx]
      · rwa [names]
    · have absent : Mapping.get? (l'.map fun x => (.string (name x), .map (fields x))) (name y) =
          none := get?_eq_none_of_notMem (by simpa using listed)
      refine ⟨l' ++ [y], fun x hx => ?_, fun x hx => ?_, ?_, ?_⟩
      · rcases List.mem_append.1 hx with hx | hx
        · exact List.mem_append_left _ (sub x hx)
        · exact List.mem_append_right _ hx
      · rw [List.map_append, List.mem_append]
        rcases List.mem_append.1 hx with hx | hx
        · exact .inl (all x hx)
        · exact .inr (List.mem_map_of_mem hx)
      · rw [List.map_append, List.map_singleton, List.nodup_append]
        refine ⟨nodup, by simp, ?_⟩
        rintro _ ha _ hb rfl
        exact listed (List.mem_singleton.1 hb ▸ ha)
      · rw [insert_of_absent absent, List.map_append]
        rfl

/-- Entries of the same name are all the same. -/
def Coherent (name : α → String) (l : List α) : Prop :=
  ∀ x ∈ l, ∀ y ∈ l, name x = name y → x = y

/-- If entries of the same name are all the same, none is lost. -/
theorem withEntries_of_coherent (fields : α → Mapping) {l : List α} (coherent : Coherent name l)
    (fresh : ∀ x ∈ l, m.get? (name x) = none) :
    ∃ l' : List α, (∀ x, x ∈ l' ↔ x ∈ l) ∧ (l'.map name).Nodup ∧
      withEntries m (l.map fun x => (name x, fields x)) =
        m ++ l'.map fun x => (.string (name x), .map (fields x)) := by
  obtain ⟨l', sub, all, nodup, eq⟩ := withEntries_of_fresh fields fresh
  refine ⟨l', fun x => ⟨sub x, fun hx => ?_⟩, nodup, eq⟩
  obtain ⟨y, hy, same⟩ := List.mem_map.1 (all x hx)
  rwa [← coherent y (sub y hy) x hx same]

end

end ParamFile.Document
