import ParamFile.Proofs.EntryFields

/-!
# Conditions of entries over shared ones

An entry says in one of two fields whether its parameter is disabled, and so may the shared fields. Where
both use the same field, or the entry uses the first, its own condition holds: the parameter is the one
that it would be without the shared conditions (`ofFields_unshared`). But the shared `Disable` stands
before a `Disabled` of the entry (`Covered`), which then is not looked at (`ofFields_of_covered`).

`condition_overriding` says so for the entries of a document, and that the document without the shared
conditions can be read as well if no entry's condition is covered.
-/

namespace ParamFile.Document

open Yaml Parameter

variable {o : LoadOptions} {common own : Mapping} {name : String}

/-! ## Single entries -/

/-- The fields say whether the parameter is disabled. -/
def SetsCondition (own : Mapping) : Prop :=
  (own.get? "Disable").isSome = true ∨ (own.get? "Disabled").isSome = true

/-- The condition of an entry stands behind a shared one. -/
def Covered (common own : Mapping) : Prop :=
  (common.get? "Disable").isSome = true ∧ own.get? "Disable" = none ∧
    (own.get? "Disabled").isSome = true

theorem get?_fragment_own {field : String} (h : (own.get? field).isSome = true)
    (common : Mapping) : (fragment name common own).get? field = Mapping.get? own.reverse field := by
  rw [← isSome_get?_reverse] at h
  obtain ⟨v, hv⟩ := Option.isSome_iff_exists.1 h
  rw [get?_fragment, hv]
  rfl

/-- The shared conditions show in no other field. -/
theorem get?_fragment_undisabled {field : String} (first : field ≠ "Disable")
    (second : field ≠ "Disabled") :
    (fragment name (undisabled common) own).get? field = (fragment name common own).get? field := by
  rw [get?_fragment, get?_fragment, undisabled, get?_reverse_erase, get?_reverse_erase,
    if_neg second, if_neg first]

/-- An entry whose condition is not covered describes the same parameter without the shared ones. -/
theorem ofFields_unshared (sets : SetsCondition own) (visible : ¬ Covered common own) :
    ofFields o (fragment name (undisabled common) own) = ofFields o (fragment name common own) := by
  refine ofFields_of_get? (fun field => get?_fragment_undisabled) fun owner => ?_
  cases hd : own.get? "Disable" with
  | some v =>
    have there : (own.get? "Disable").isSome = true := by rw [hd]; rfl
    refine disableOf_congr ?_ (fun absent => ?_) owner
    · rw [get?_fragment_own there, get?_fragment_own there]
    · rw [get?_fragment_own there] at absent
      rw [← isSome_get?_reverse, absent] at there
      cases there
  | none =>
    have there : (own.get? "Disabled").isSome = true := by simpa [SetsCondition, hd] using sets
    have absent : common.get? "Disable" = none := by
      rw [← Option.not_isSome_iff_eq_none]
      exact fun first => visible ⟨first, hd, there⟩
    refine disableOf_congr ?_ (fun _ => ?_) owner
    · rw [get?_fragment, get?_fragment, undisabled, get?_reverse_erase, get?_reverse_erase,
        get?_reverse_eq_none absent]
      rfl
    · rw [get?_fragment_own there, get?_fragment_own there]

/-- An entry whose condition is covered describes the same parameter without it. -/
theorem ofFields_of_covered (covered : Covered common own) :
    ofFields o (fragment name common (own.erase "Disabled")) =
      ofFields o (fragment name common own) := by
  obtain ⟨shared, absent, -⟩ := covered
  have other {field : String} (ne : field ≠ "Disabled") :
      (fragment name common (own.erase "Disabled")).get? field =
        (fragment name common own).get? field := by
    rw [get?_fragment, get?_fragment, get?_reverse_erase, if_neg ne]
  refine ofFields_of_get? (fun field _ second => other second) fun owner => ?_
  refine disableOf_congr (other (by decide)) (fun none => ?_) owner
  -- the shared condition is read first, so the second field does not count
  rw [← isSome_get?_reverse] at shared
  obtain ⟨v, hv⟩ := Option.isSome_iff_exists.1 shared
  rw [get?_fragment, get?_reverse_erase, if_neg (by decide), get?_reverse_eq_none absent, hv] at none
  cases none

/-- An entry that says nothing of its condition can be read without the shared ones, too. -/
theorem ofFields_unshared_isOk {p : Parameter} (silent : ¬ SetsCondition own)
    (loaded : ofFields o (fragment name common own) = .ok p) :
    ofFields o (fragment name (undisabled common) own) = .ok (p.withDisable none) := by
  simp only [SetsCondition, not_or, Option.not_isSome_iff_eq_none] at silent
  rw [ofFields_eq_disable] at loaded ⊢
  obtain ⟨q, hq, loaded⟩ := ok_of_bind loaded
  obtain ⟨disable, -, rfl⟩ := ok_of_map loaded
  have rest : ofFields o (undisabled (fragment name (undisabled common) own)) =
      ofFields o (undisabled (fragment name common own)) :=
    ofFields_undisabled_congr (fun field first second =>
      Mapping.stated_of_get? (get?_fragment_undisabled first second))
      (kindOf_of_get? fun field => get?_fragment_undisabled)
  have unset : disableOf o (fragment name (undisabled common) own) q.name.text = .ok none := by
    rw [disableOf, get?_fragment, get?_fragment, undisabled, get?_reverse_erase, get?_reverse_erase,
      get?_reverse_erase, get?_reverse_eq_none silent.1, get?_reverse_eq_none silent.2]
    rfl
  rw [rest, hq, ok_bind, unset]
  rfl

/-! ## Documents -/

/-- Only mappings set a condition. -/
theorem silent_of_entryFields {v : Value} (fields : entryFields name v = .ok own)
    (bare : ∀ m, v ≠ .map m) : ¬ SetsCondition own := by
  cases v with
  | map m => exact absurd rfl (bare m)
  | tagged => cases fields
  | _ => cases fields; simp [SetsCondition, Mapping.get?]

/-- No entry has a condition that stands behind a shared one. -/
def Uncovered (common root : Mapping) : Prop :=
  ∀ k own name, (k, .map own) ∈ root → k.scalarText? = some name → isReserved name = false →
    ¬ Covered common own

/-- If no condition is covered, an entry can be read without the shared ones, too. -/
theorem readable_unshared {root : Mapping} (uncovered : Uncovered common root) {e : Value × Value}
    (mem : e ∈ root) (h : Readable o common e) : Readable o (undisabled common) e := by
  obtain ⟨k, v⟩ := e
  obtain ⟨name, named, describes⟩ := h
  refine ⟨name, named, fun notReserved => ?_⟩
  obtain ⟨p, hp⟩ := describes notReserved
  obtain ⟨own, fields, loaded⟩ := ok_of_bind hp
  by_cases sets : SetsCondition own
  · refine ⟨p, ?_⟩
    have visible : ¬ Covered common own := by
      by_cases mapping : ∃ m, v = .map m
      · obtain ⟨m, rfl⟩ := mapping
        cases fields
        exact uncovered k own name mem named notReserved
      · exact absurd sets (silent_of_entryFields fields fun m eq => mapping ⟨m, eq⟩)
    rw [described, fields, ok_bind, ofFields_unshared sets visible]
    exact loaded
  · refine ⟨p.withDisable none, ?_⟩
    rw [described, fields, ok_bind]
    exact ofFields_unshared_isOk sets loaded

def withoutSharedCondition (root : Mapping) : Mapping :=
  match root.get? commonKey with
  | some (.map common) => root.insert commonKey (.map (undisabled common))
  | _ => root

theorem get?_withoutSharedCondition {key : String} (ne : key ≠ commonKey) (root : Mapping) :
    (withoutSharedCondition root).get? key = root.get? key := by
  unfold withoutSharedCondition
  split
  · rw [Mapping.get?_insert, if_neg ne]
  · rfl

theorem commonFields_withoutSharedCondition {root : Mapping} (h : commonFields root = .ok common) :
    commonFields (withoutSharedCondition root) = .ok (undisabled common) := by
  unfold withoutSharedCondition
  split
  · rename_i m hm
    rw [commonFields, hm] at h
    cases h
    rw [commonFields, Mapping.get?_insert_self]
  · rename_i notMapping
    rw [commonFields] at h ⊢
    split at h
    · cases h; rfl
    · cases h; rfl
    · rename_i m hm
      exact absurd hm (notMapping m)
    · cases h

/-- A reserved entry can be replaced without any parameter noticing it. -/
theorem addEntries_insert {reserved : String} (h : isReserved reserved = true) (v : Value)
    (root : Mapping) (ps : OrderedMap Parameter) :
    addEntries o common (root.insert reserved v) ps = addEntries o common root ps := by
  induction root generalizing ps with
  | nil => rw [Mapping.insert, addEntries_cons, Value.scalarText?]; simp only [h, if_true]
  | cons e rest ih =>
    obtain ⟨k, w⟩ := e
    cases k with
    | string k =>
      rw [Mapping.insert]
      split
      · rename_i same
        subst same
        rw [addEntries_cons, addEntries_cons, Value.scalarText?]
        simp only [h, if_true]
      · rw [addEntries_cons, addEntries_cons]
        simp only [ih]
    | _ => simp only [Mapping.insert, addEntries_cons, ih]

/-- Without the shared conditions a document differs in its parameters only. -/
theorem ofTree_withoutSharedCondition {root : Mapping} {d : Document}
    (loaded : ofTree o (.map root) = .ok d) (shared : commonFields root = .ok common) :
    ofTree o (.map (withoutSharedCondition root)) =
      (addEntries o (undisabled common) root .empty).map fun parameters =>
        { d with parameters } := by
  obtain ⟨inputs, -, flush⟩ := ofMapping_ok loaded
  have entries : addEntries o (undisabled common) (withoutSharedCondition root) .empty =
      addEntries o (undisabled common) root .empty := by
    unfold withoutSharedCondition
    split
    · exact addEntries_insert rfl _ root .empty
    · rfl
  rw [ofTree, ofMapping, get?_withoutSharedCondition (by decide), inputs, ok_bind,
    commonFields_withoutSharedCondition shared, ok_bind, flushSection,
    get?_withoutSharedCondition (by decide)]
  rw [flushSection] at flush
  rw [flush, ok_bind, entries]
  cases addEntries o (undisabled common) root .empty <;> rfl

/-- The condition of an entry holds over the shared ones unless it is covered: the parameter is the one
that the entry describes without them, also in the document without them. If it is covered, the parameter
is the one of the entry without its condition. -/
theorem condition_overriding {root : Mapping} {d : Document} (loaded : ofTree o (.map root) = .ok d) :
    ∃ common, commonFields root = .ok common ∧
      (∀ k own name, (k, .map own) ∈ root → k.scalarText? = some name → isReserved name = false →
        SetsCondition own → ∃ p, described o common name (.map own) = .ok p ∧
          (¬ Covered common own → described o (undisabled common) name (.map own) = .ok p) ∧
          (Covered common own → described o common name (.map (own.erase "Disabled")) = .ok p) ∧
          (lastEntry root name = some (.map own) → d.parameters.get? name = some p ∧
            (¬ Covered common own → ∀ d', ofTree o (.map (withoutSharedCondition root)) = .ok d' →
              d'.parameters.get? name = some p))) ∧
      (Uncovered common root → ∃ d', ofTree o (.map (withoutSharedCondition root)) = .ok d') := by
  obtain ⟨common, shared, readable, stands⟩ := entries_of_loaded loaded
  have without := ofTree_withoutSharedCondition loaded shared
  refine ⟨common, shared, fun k own name entry named notReserved sets => ?_, fun uncovered => ?_⟩
  · obtain ⟨_, p, fields, hp⟩ := (readable _ entry).described named notReserved
    cases fields
    have alone (visible : ¬ Covered common own) :
        described o (undisabled common) name (.map own) = .ok p :=
      (ofFields_unshared sets visible).trans hp
    refine ⟨p, hp, alone, fun covered => (ofFields_of_covered covered).trans hp, fun last => ⟨?_, ?_⟩⟩
    · obtain ⟨q, hq, there⟩ := stands name _ notReserved last
      cases hp.symm.trans hq
      exact there
    · intro visible d' loaded'
      rw [without] at loaded'
      obtain ⟨parameters, entries, rfl⟩ := ok_of_map loaded'
      obtain ⟨q, hq, there⟩ := (get?_addEntries entries notReserved).1 _ last
      cases (alone visible).symm.trans hq
      exact there
  · obtain ⟨parameters, entries⟩ := (addEntries_ok .empty).2 fun e mem =>
      readable_unshared uncovered mem (readable e mem)
    exact ⟨_, without.trans (congrArg (Except.map _) entries)⟩

/-- An entry that is not disabled, although the shared fields say so in the same field. -/
theorem condition_overriding_flag :
    ∃ d d' p, ofTree {} (.map [(.string ".COMMON", .map [(.string "Disabled", .bool true)]),
        (.string "/a", .map [(.string "Value", .string "x"), (.string "Disabled", .bool false)])]) =
          .ok d ∧
      ofTree {} (.map [(.string ".COMMON", .map []),
        (.string "/a", .map [(.string "Value", .string "x"), (.string "Disabled", .bool false)])]) =
          .ok d' ∧
      d.parameters.get? "/a" = some p ∧ d'.parameters.get? "/a" = some p ∧
      p.disable = some (.flag false) := by
  obtain ⟨common, shared, entry, -⟩ := condition_overriding (show ofTree {} (.map
    [(.string ".COMMON", .map [(.string "Disabled", .bool true)]),
      (.string "/a", .map [(.string "Value", .string "x"), (.string "Disabled", .bool false)])]) =
        .ok _ from rfl)
  cases shared
  obtain ⟨p, -, alone, -, stands⟩ := entry _ _ "/a" (.tail _ (.head _)) rfl rfl (.inr rfl)
  obtain ⟨there, also⟩ := stands rfl
  have visible : ¬ Covered [(.string "Disabled", .bool true)]
      [(.string "Value", .string "x"), (.string "Disabled", .bool false)] := by
    rintro ⟨first, -⟩
    cases first
  refine ⟨_, _, p, rfl, rfl, there, also visible _ rfl, ?_⟩
  cases alone visible
  rfl

/-- A shared condition stands before the other one of an entry. -/
theorem condition_covered :
    ∃ d d' p p', ofTree {} (.map [(.string ".COMMON", .map [(.string "Disable", .bool true)]),
        (.string "/a", .map [(.string "Value", .string "x"), (.string "Disabled", .bool false)])]) =
          .ok d ∧
      ofTree {} (.map [(.string ".COMMON", .map []),
        (.string "/a", .map [(.string "Value", .string "x"), (.string "Disabled", .bool false)])]) =
          .ok d' ∧
      d.parameters.get? "/a" = some p ∧ d'.parameters.get? "/a" = some p' ∧
      ∀ (b : Bindings) (c : Client),
        ((p.readDisabled b).runOn c).1 = .ok true ∧ ((p'.readDisabled b).runOn c).1 = .ok false :=
  ⟨_, _, _, _, rfl, rfl, rfl, rfl, fun _ _ => ⟨rfl, rfl⟩⟩

end ParamFile.Document
