import ParamFile.Proofs.Fields
import ParamFile.Proofs.Stated

/-!
# The fields of an entry

The fields of an entry are its name, the shared fields over it, and its own over both. A field that is
put over others reads as it was put there last, whatever stood below (`get?_fragment`).

A document is read if each of its entries describes a parameter (`described`), and only then
(`addEntries_ok`); under each name stands the parameter of the entry that says it last
(`get?_addEntries`).
-/

namespace ParamFile.Document

open Yaml

/-! ## Fields of an entry -/

theorem isSome_get?_reverse (m : Mapping) (field : String) :
    (Mapping.get? m.reverse field).isSome = (m.get? field).isSome := by
  rw [Bool.eq_iff_iff, isSome_get?, isSome_get?, List.map_reverse, List.mem_reverse]

theorem get?_reverse_eq_none {m : Mapping} {field : String} (h : m.get? field = none) :
    Mapping.get? m.reverse field = none := by
  rw [← Option.not_isSome_iff_eq_none, isSome_get?_reverse, h]
  exact Bool.false_ne_true

theorem get?_reverse_erase (m : Mapping) (name field : String) :
    Mapping.get? (m.erase name).reverse field =
      if field = name then none else Mapping.get? m.reverse field := by
  rw [Mapping.erase, ← List.filter_reverse]
  exact Mapping.get?_erase m.reverse name field

theorem get?_fragment (name : String) (common own : Mapping) (field : String) :
    (fragment name common own).get? field =
      (Mapping.get? own.reverse field).or ((Mapping.get? common.reverse field).or
        (if field = "Name" then some (.string name) else none)) := by
  rw [fragment, get?_override_last, get?_override_last]
  congr 2
  by_cases asked : field = "Name"
  · simp [Mapping.get?, asked]
  · simp [Mapping.get?, asked, Ne.symm asked]

/-! ## Entries of a document -/

/-- The parameter that an entry describes. -/
def described (o : LoadOptions) (common : Mapping) (name : String) (v : Value) :
    Except Error Parameter := do
  Parameter.ofFields o (fragment name common (← entryFields name v))

/-- What the entries say last under a name. -/
def lastEntry : Mapping → String → Option Value
  | [], _ => none
  | (k, v) :: rest, name =>
    (lastEntry rest name).or (if k.scalarText? = some name then some v else none)

variable {o : LoadOptions} {common : Mapping}

theorem addEntries_cons (k v : Value) (rest : Mapping) (ps : OrderedMap Parameter) :
    addEntries o common ((k, v) :: rest) ps =
      match k.scalarText? with
      | none => .error (.invalidDocument (.key k.describe))
      | some name =>
        if isReserved name then addEntries o common rest ps
        else described o common name v >>= fun p => addEntries o common rest (ps.insert name p) := by
  rw [addEntries]
  cases k.scalarText? with
  | none => rfl
  | some name => simp only [described, bind_assoc]

/-- The entry can be read: its key is a text, and unless that is reserved, it describes a parameter. -/
def Readable (o : LoadOptions) (common : Mapping) (e : Value × Value) : Prop :=
  ∃ name, e.1.scalarText? = some name ∧
    (isReserved name = false → ∃ p, described o common name e.2 = .ok p)

/-- Entries are read exactly if each of them can be. -/
theorem addEntries_ok {entries : Mapping} (ps : OrderedMap Parameter) :
    (∃ n, addEntries o common entries ps = .ok n) ↔ ∀ e ∈ entries, Readable o common e := by
  induction entries generalizing ps with
  | nil => simp [addEntries]
  | cons e rest ih =>
    obtain ⟨k, v⟩ := e
    rw [addEntries_cons, List.forall_mem_cons]
    constructor
    · rintro ⟨n, h⟩
      split at h
      · cases h
      · rename_i name named
        split at h
        · rename_i reserved
          refine ⟨⟨name, named, fun other => ?_⟩, (ih ps).1 ⟨n, h⟩⟩
          rw [reserved] at other
          cases other
        · obtain ⟨p, hp, h⟩ := ok_of_bind h
          exact ⟨⟨name, named, fun _ => ⟨p, hp⟩⟩, (ih _).1 ⟨n, h⟩⟩
    · rintro ⟨⟨name, named, describes⟩, readable⟩
      rw [named]
      dsimp only
      split
      · exact (ih ps).2 readable
      · rename_i notReserved
        obtain ⟨p, hp⟩ := describes (by simpa using notReserved)
        rw [hp, ok_bind]
        exact (ih _).2 readable

theorem get?_addEntries {entries : Mapping} {ps n : OrderedMap Parameter}
    (h : addEntries o common entries ps = .ok n) {name : String}
    (notReserved : isReserved name = false) :
    (∀ v, lastEntry entries name = some v →
      ∃ p, described o common name v = .ok p ∧ n.get? name = some p) ∧
      (lastEntry entries name = none → n.get? name = ps.get? name) := by
  induction entries generalizing ps with
  | nil => cases h; exact ⟨fun v hv => (by cases hv), fun _ => rfl⟩
  | cons e rest ih =>
    obtain ⟨k, v⟩ := e
    rw [addEntries_cons] at h
    split at h
    · cases h
    · rename_i key named
      have skip (ne : key ≠ name) : lastEntry ((k, v) :: rest) name = lastEntry rest name := by
        rw [lastEntry, named, if_neg (fun eq => ne (Option.some.inj eq)), Option.or_none]
      split at h
      · rename_i reserved
        have ne : key ≠ name := by
          rintro rfl
          rw [reserved] at notReserved
          cases notReserved
        rw [skip ne]
        exact ih h
      · obtain ⟨p, hp, h⟩ := ok_of_bind h
        obtain ⟨later, kept⟩ := ih h
        rw [OrderedMap.get?_insert] at kept
        by_cases same : name = key
        · subst same
          rw [if_pos rfl] at kept
          rw [lastEntry, named, if_pos rfl]
          cases hl : lastEntry rest name with
          | some w =>
            refine ⟨fun u hu => later u ?_, fun none => ?_⟩
            · rw [hl, ← hu]; rfl
            · cases none
          | none =>
            refine ⟨fun u hu => ?_, fun none => ?_⟩
            · cases hu
              exact ⟨p, hp, kept hl⟩
            · cases none
        · rw [skip (Ne.symm same)]
          rw [if_neg same] at kept
          exact ⟨later, kept⟩

/-- All entries of a tree that was read as a document can be read, and under each name stands the
parameter of the entry that says it last. -/
theorem entries_of_loaded {root : Mapping} {d : Document} (loaded : ofTree o (.map root) = .ok d) :
    ∃ common, commonFields root = .ok common ∧ (∀ e ∈ root, Readable o common e) ∧
      ∀ name v, isReserved name = false → lastEntry root name = some v →
        ∃ p, described o common name v = .ok p ∧ d.parameters.get? name = some p := by
  obtain ⟨-, ⟨common, shared, entries⟩, -⟩ := ofMapping_ok loaded
  refine ⟨common, shared, (addEntries_ok .empty).1 ⟨_, entries⟩, fun name v notReserved last => ?_⟩
  exact (get?_addEntries entries notReserved).1 v last

theorem Readable.described {k v : Value} {name : String} (h : Readable o common (k, v))
    (named : k.scalarText? = some name) (notReserved : isReserved name = false) :
    ∃ own p, entryFields name v = .ok own ∧ Parameter.ofFields o (fragment name common own) = .ok p := by
  obtain ⟨other, same, describes⟩ := h
  obtain rfl : name = other := Option.some.inj (named.symm.trans same)
  obtain ⟨p, hp⟩ := describes notReserved
  obtain ⟨own, fields, hp⟩ := ok_of_bind hp
  exact ⟨own, p, fields, hp⟩

end ParamFile.Document
