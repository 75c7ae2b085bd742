import Mathlib.Data.List.Induction
import ParamFile.Proofs.Loaded

/-!
# Merging documents in any grouping

However some documents are grouped when they are merged (`Document.Grouping`), it works exactly if all
declarations of each input fit together (`Document.Compatible`), and what comes out is the same
(`Document.Unites`). Three facts carry this over from two documents to any number:

* `Input.together_append`: what declarations say together is what their halves say together.
* `Input.allFit_append`: whether they fit can be seen from what the halves say together.
* `OrderedMap.eraseDups_append_eraseDups`: names that came up in either half come up in their order.
-/

namespace ParamFile

open ParamFile.Action

/-! ## Maps in the order of first mention -/

namespace OrderedMap

variable {α : Type}

theorem eraseDups_concat (l : List String) (name : String) :
    (l ++ [name]).eraseDups = if name ∈ l then l.eraseDups else l.eraseDups ++ [name] := by
  rw [List.eraseDups_append]
  by_cases h : name ∈ l <;> simp [List.removeAll, h, List.eraseDups_cons]

theorem eraseDups_of_nodup {l : List String} (h : l.Nodup) : l.eraseDups = l := by
  induction l using List.reverseRecOn with
  | nil => rfl
  | append_singleton l name ih =>
    rw [List.nodup_append] at h
    have absent : name ∉ l := fun hm => h.2.2 name hm name (by simp) rfl
    rw [eraseDups_concat, if_neg absent, ih h.1]

theorem nodup_eraseDups (l : List String) : l.eraseDups.Nodup := by
  induction l using List.reverseRecOn with
  | nil => exact List.nodup_nil
  | append_singleton l name ih =>
    rw [eraseDups_concat]
    split
    · exact ih
    · rename_i absent
      rw [List.nodup_append]
      refine ⟨ih, by simp, ?_⟩
      rintro _ listed _ last rfl
      exact absent (List.mem_eraseDups.1 (List.mem_singleton.1 last ▸ listed))

theorem eraseDups_append_eraseDups (l m : List String) :
    (l.eraseDups ++ m.eraseDups).eraseDups = (l ++ m).eraseDups := by
  induction m using List.reverseRecOn with
  | nil =>
    simp only [List.eraseDups_nil, List.append_nil]
    induction l using List.reverseRecOn with
    | nil => rfl
    | append_singleton l name ih =>
      by_cases h : name ∈ l
      · simp only [eraseDups_concat, if_pos h, ih]
      · have absent : name ∉ l.eraseDups := by rwa [List.mem_eraseDups]
        rw [eraseDups_concat, if_neg h, eraseDups_concat, if_neg absent, ih]
  | append_singleton m name ih =>
    rw [eraseDups_concat m, ← List.append_assoc l, eraseDups_concat (l ++ m)]
    by_cases hm : name ∈ m
    · rw [if_pos hm, if_pos (List.mem_append_right l hm), ih]
    · rw [if_neg hm, ← List.append_assoc, eraseDups_concat, ih]
      simp only [List.mem_append, List.mem_eraseDups]

theorem eraseDups_append_left (l m : List String) : (l.eraseDups ++ m).eraseDups = (l ++ m).eraseDups := by
  have same : l.eraseDups.eraseDups = l.eraseDups := eraseDups_of_nodup (nodup_eraseDups l)
  rw [← eraseDups_append_eraseDups, same, eraseDups_append_eraseDups]

theorem keys_foldl_insert (l : List (String × α)) (m : OrderedMap α) :
    (l.foldl (fun m e => m.insert e.1 e.2) m).keys = (m.keys ++ l.map (·.1)).eraseDups := by
  induction l using List.reverseRecOn with
  | nil => simp only [List.foldl_nil, List.map_nil, List.append_nil, keys, eraseDups_of_nodup m.nodup]
  | append_singleton l e ih =>
    rw [List.foldl_concat, keys_insert, ih, List.map_append, ← List.append_assoc, List.map_singleton,
      eraseDups_concat]
    simp only [List.mem_eraseDups]

theorem find?_eq_none_of_notMem {name : String} {l : List (String × α)} (h : name ∉ l.map (·.1)) :
    find? name l = none := by
  fun_induction find? name l with
  | case1 => rfl
  | case2 v rest => simp at h
  | case3 k v rest ne ih =>
    rw [List.map_cons, List.mem_cons, not_or] at h
    exact ih h.2

theorem mem_entries {m : OrderedMap α} {name : String} {v : α} :
    (name, v) ∈ m.entries ↔ m.get? name = some v := by
  have listed : ∀ l : List (String × α), (l.map (·.1)).Nodup →
      ((name, v) ∈ l ↔ find? name l = some v) := by
    intro l nodup
    induction l with
    | nil => simp [find?]
    | cons e rest ih =>
      obtain ⟨k, w⟩ := e
      rw [List.map_cons, List.nodup_cons] at nodup
      rw [List.mem_cons, ih nodup.2, find?]
      by_cases h : k = name
      · subst h
        rw [if_pos rfl, find?_eq_none_of_notMem nodup.1]
        simp [eq_comm]
      · simp [h, Ne.symm h]
  exact listed m.entries m.nodup

theorem mem_keys {m : OrderedMap α} {name : String} :
    name ∈ m.keys ↔ ∃ v, m.get? name = some v := by
  rw [keys, List.mem_map]
  constructor
  · rintro ⟨⟨k, v⟩, mem, rfl⟩
    exact ⟨v, mem_entries.1 mem⟩
  · rintro ⟨v, there⟩
    exact ⟨_, mem_entries.2 there, rfl⟩

theorem get?_foldl_insert {l : List (String × α)} (nodup : (l.map (·.1)).Nodup) (m : OrderedMap α)
    (name : String) :
    (l.foldl (fun m e => m.insert e.1 e.2) m).get? name = (find? name l).or (m.get? name) := by
  induction l generalizing m with
  | nil => simp [find?]
  | cons e rest ih =>
    rw [List.map_cons, List.nodup_cons] at nodup
    rw [List.foldl_cons, ih nodup.2, get?_insert, find?]
    by_cases h : e.1 = name
    · rw [if_pos h.symm, if_pos h, find?_eq_none_of_notMem (h ▸ nodup.1)]
      rfl
    · rw [if_neg (Ne.symm h), if_neg h]

theorem ext_keys {m m' : OrderedMap α} (keys : m.keys = m'.keys)
    (reads : ∀ name, m.get? name = m'.get? name) : m = m' := by
  have same : ∀ l l' : List (String × α), (l.map (·.1)).Nodup → l.map (·.1) = l'.map (·.1) →
      (∀ name, find? name l = find? name l') → l = l' := by
    intro l
    induction l with
    | nil =>
      intro l' _ eq _
      exact (List.map_eq_nil_iff.1 eq.symm).symm
    | cons e rest ih =>
      intro l' nodup eq reads
      cases l' with
      | nil => cases eq
      | cons e' rest' =>
        obtain ⟨k, v⟩ := e
        obtain ⟨k', v'⟩ := e'
        simp only [List.map_cons, List.cons.injEq] at eq
        simp only [List.map_cons, List.nodup_cons] at nodup
        obtain ⟨rfl, eq⟩ := eq
        -- the first name reads as the first entry of either list
        have here := reads k
        simp only [find?, if_true, Option.some.injEq] at here
        subst here
        congr 1
        refine ih rest' nodup.2 eq fun name => ?_
        by_cases h : k = name
        · subst h
          rw [find?_eq_none_of_notMem nodup.1, find?_eq_none_of_notMem (eq ▸ nodup.1)]
        · simpa [find?, h] using reads name
  have := same m.entries m'.entries m.nodup keys reads
  cases m
  cases m'
  cases this
  rfl

end OrderedMap

/-! ## Declarations of an input -/

namespace Input

/-- Two declarations fit together: they agree on the kind, and on the pattern if both give one. -/
structure Fits (a b : Input) : Prop where
  kind : a.kind = b.kind
  pattern : ∀ p ∈ a.pattern, ∀ q ∈ b.pattern, p = q

theorem Fits.refl (a : Input) : a.Fits a :=
  ⟨rfl, fun _ hp _ hq => Option.some.inj (hp.symm.trans hq)⟩

theorem Fits.symm {a b : Input} (h : a.Fits b) : b.Fits a :=
  ⟨h.kind.symm, fun q hq p hp => (h.pattern p hp q hq).symm⟩

/-- All declarations fit together. -/
def AllFit (l : List Input) : Prop := ∀ a ∈ l, ∀ b ∈ l, a.Fits b

/-- What some declarations say together. The first one holds, with the first pattern and the first
description that any of them gives. -/
def together : List Input → Option Input
  | [] => none
  | a :: rest => some { a with
      pattern := (a :: rest).findSome? (·.pattern)
      description := (a :: rest).findSome? (·.description) }

@[simp] theorem together_singleton (a : Input) : together [a] = some a := by
  simp [together]

theorem findSome?_pair {α β : Type} (f : α → Option β) (a b : α) :
    [a, b].findSome? f = (f a).or (f b) := by
  cases ha : f a <;> cases hb : f b <;> simp [ha, hb]

theorem together_append (l m : List Input) :
    together (l ++ m) = together ((together l).toList ++ (together m).toList) := by
  cases l with
  | nil => cases m <;> simp [together]
  | cons a l =>
    cases m with
    | nil => simp [together]
    | cons b m =>
      simp only [together, List.cons_append, Option.toList_some, List.nil_append, findSome?_pair]
      rw [← List.cons_append, List.findSome?_append, List.findSome?_append]

theorem exists_together {l : List Input} {x : Input} (h : x ∈ l) : ∃ a, together l = some a := by
  cases l with
  | nil => cases h
  | cons a l => exact ⟨_, rfl⟩

theorem fits_together {l : List Input} {a b : Input} (ha : together l = some a)
    (h : ∀ x ∈ l, x.Fits b) : a.Fits b := by
  cases l with
  | nil => cases ha
  | cons x l =>
    cases ha
    refine ⟨(h x List.mem_cons_self).kind, fun p hp q hq => ?_⟩
    obtain ⟨y, hy, given⟩ := List.exists_of_findSome?_eq_some hp
    exact (h y hy).pattern p given q hq

theorem fits_of_together {l : List Input} (fit : AllFit l) {a b : Input} (ha : together l = some a)
    (h : a.Fits b) : ∀ x ∈ l, x.Fits b := by
  intro x hx
  cases l with
  | nil => cases hx
  | cons y l =>
    cases ha
    refine ⟨(fit x hx y List.mem_cons_self).kind.trans h.kind, fun p hp q hq => ?_⟩
    -- some declaration gives a pattern, so there is a first one that does
    cases hf : (y :: l).findSome? (·.pattern) with
    | none =>
      have none := List.findSome?_eq_none_iff.1 hf x hx
      rw [none] at hp
      cases hp
    | some p' =>
      obtain ⟨z, hz, given⟩ := List.exists_of_findSome?_eq_some hf
      exact ((fit x hx z hz).pattern p hp p' given).trans (h.pattern p' hf q hq)

theorem allFit_append {l m : List Input} :
    AllFit (l ++ m) ↔
      AllFit l ∧ AllFit m ∧ ∀ a ∈ together l, ∀ b ∈ together m, a.Fits b := by
  constructor
  · intro h
    refine ⟨fun x hx y hy => ?_, fun x hx y hy => ?_, fun a ha b hb => ?_⟩
    · exact h x (List.mem_append_left m hx) y (List.mem_append_left m hy)
    · exact h x (List.mem_append_right l hx) y (List.mem_append_right l hy)
    · refine fits_together ha fun x hx => Fits.symm (fits_together hb fun y hy => ?_)
      exact h y (List.mem_append_right l hy) x (List.mem_append_left m hx)
  · rintro ⟨hl, hm, h⟩
    have across : ∀ x ∈ l, ∀ y ∈ m, x.Fits y := by
      intro x hx y hy
      obtain ⟨a, ha⟩ := exists_together hx
      obtain ⟨b, hb⟩ := exists_together hy
      have left : x.Fits b := fits_of_together hl ha (h a ha b hb) x hx
      exact Fits.symm (fits_of_together hm hb left.symm y hy)
    intro x hx y hy
    rcases List.mem_append.1 hx with hx | hx <;> rcases List.mem_append.1 hy with hy | hy
    · exact hl x hx y hy
    · exact across x hx y hy
    · exact Fits.symm (across y hy x hx)
    · exact hm x hx y hy

/-! ## Merging inputs -/

theorem merge_eq_ok {name : String} {a b c : Input} :
    merge name a b = .ok c ↔ a.Fits b ∧ together [a, b] = some c := by
  have said : together [a, b] = some { a with
      pattern := a.pattern.or b.pattern, description := a.description.or b.description } := by
    simp only [together, findSome?_pair]
  have fits : a.Fits b ↔ a.kind = b.kind ∧ ∀ p ∈ a.pattern, ∀ q ∈ b.pattern, p = q :=
    ⟨fun h => ⟨h.kind, h.pattern⟩, fun h => ⟨h.1, h.2⟩⟩
  rw [said, fits]
  unfold merge
  by_cases kind : a.kind = b.kind
  · cases ha : a.pattern with
    | none => simp [kind]
    | some p =>
      cases hb : b.pattern with
      | none => simp [kind]
      | some q => by_cases hpq : p = q <;> simp [kind, hpq]
  · simp [kind]

/-- Merges one more declaration into some inputs. -/
def joined (m : Inputs) (name : String) (b : Input) : Except Error Input :=
  (m.get? name).elim (.ok b) fun a => merge name a b

theorem joined_eq_ok {m : Inputs} {name : String} {b c : Input} :
    joined m name b = .ok c ↔
      (∀ a ∈ m.get? name, a.Fits b) ∧ together ((m.get? name).toList ++ [b]) = some c := by
  unfold joined
  cases m.get? name with
  | none => simp
  | some a => simpa using merge_eq_ok

theorem mergeEntries_cons (m : Inputs) (name : String) (b : Input) (rest : List (String × Input)) :
    (mergeEntries ((name, b) :: rest)).runOn m = match joined m name b with
      | .ok c => (mergeEntries rest).runOn (m.insert name c)
      | .error e => (.error e, m) := by
  rw [mergeEntries, runOn_bind, runOn_get, joined]
  dsimp only
  cases m.get? name with
  | none => rfl
  | some a =>
    simp only [Option.elim]
    cases merge name a b <;> rfl

section
variable {es : List (String × Input)}

/-- The entries fit together with what is there. -/
def EntriesFit (m : Inputs) (es : List (String × Input)) : Prop :=
  ∀ e ∈ es, ∀ a ∈ m.get? e.1, a.Fits e.2

theorem get?_insert_of_notMem {m : Inputs} {name : String} {c : Input}
    (absent : name ∉ es.map (·.1)) : ∀ e ∈ es, (m.insert name c).get? e.1 = m.get? e.1 := by
  intro e he
  rw [NameMap.get?_insert, if_neg]
  rintro rfl
  exact absent (List.mem_map.2 ⟨e, he, rfl⟩)

theorem entriesFit_cons {m : Inputs} {name : String} {b c : Input}
    (absent : name ∉ es.map (·.1)) :
    EntriesFit m ((name, b) :: es) ↔
      (∀ a ∈ m.get? name, a.Fits b) ∧ EntriesFit (m.insert name c) es := by
  -- the other entries have other names, so they meet what was there before
  have same := get?_insert_of_notMem (m := m) (c := c) absent
  unfold EntriesFit
  rw [List.forall_mem_cons]
  refine and_congr_right fun _ => forall₂_congr fun e he => ?_
  rw [same e he]

theorem entriesFit_of_mergeEntries (nodup : (es.map (·.1)).Nodup) {m t : Inputs}
    (h : (mergeEntries es).runOn m = (.ok (), t)) : EntriesFit m es := by
  induction es generalizing m with
  | nil => exact fun e he => nomatch he
  | cons e rest ih =>
    obtain ⟨name, b⟩ := e
    rw [List.map_cons, List.nodup_cons] at nodup
    rw [mergeEntries_cons] at h
    cases hc : joined m name b with
    | error e =>
      rw [hc] at h
      cases h
    | ok c =>
      rw [hc] at h
      exact (entriesFit_cons nodup.1).2 ⟨(joined_eq_ok.1 hc).1, ih nodup.2 h⟩

theorem mergeEntries_of_fit (nodup : (es.map (·.1)).Nodup) {m : Inputs} (fit : EntriesFit m es) :
    ∃ t, (mergeEntries es).runOn m = (.ok (), t) ∧ ∀ name,
      t.get? name = together ((m.get? name).toList ++ (NameMap.find? name es).toList) := by
  induction es generalizing m with
  | nil =>
    refine ⟨m, rfl, fun name => ?_⟩
    cases h : m.get? name <;> simp [NameMap.find?, together]
  | cons e rest ih =>
    obtain ⟨name, b⟩ := e
    rw [List.map_cons, List.nodup_cons] at nodup
    obtain ⟨c, hc⟩ : ∃ c, together ((m.get? name).toList ++ [b]) = some c :=
      exists_together (List.mem_append_right _ List.mem_cons_self)
    obtain ⟨here, later⟩ := (entriesFit_cons (c := c) nodup.1).1 fit
    obtain ⟨t, run, reads⟩ := ih nodup.2 later
    refine ⟨t, ?_, fun other => ?_⟩
    · rw [mergeEntries_cons, joined_eq_ok.2 ⟨here, hc⟩]
      exact run
    · rw [reads, NameMap.get?_insert, NameMap.find?]
      by_cases h : name = other
      · subst h
        rw [if_pos rfl, if_pos rfl, NameMap.find?_eq_none.2 nodup.1]
        simpa using hc.symm
      · rw [if_neg (Ne.symm h), if_neg h]

end

theorem nodup_names (m : Inputs) : (m.entries.map (·.1)).Nodup :=
  m.sorted.imp fun {a b} (lt : a < b) (eq : a = b) => String.lt_irrefl b (eq ▸ lt)

theorem entriesFit_iff {m others : Inputs} :
    EntriesFit m others.entries ↔
      ∀ name, ∀ a ∈ m.get? name, ∀ b ∈ others.get? name, a.Fits b := by
  constructor
  · intro h name a ha b hb
    exact h (name, b) (NameMap.mem_entries.2 hb) a ha
  · intro h e he a ha
    exact h e.1 a ha e.2 (NameMap.mem_entries.1 he)

theorem merged_of_fit {m others : Inputs}
    (fit : ∀ name, ∀ a ∈ m.get? name, ∀ b ∈ others.get? name, a.Fits b) :
    ∃ t, merged m others = .ok t := by
  obtain ⟨t, run, -⟩ := mergeEntries_of_fit (nodup_names others) (entriesFit_iff.2 fit)
  refine ⟨t, ?_⟩
  rw [merged, mergeAll, run]

/-- Merging works only if declarations fit together, and leaves what they say together. -/
theorem merged_ok {m others t : Inputs} (h : merged m others = .ok t) :
    (∀ name, ∀ a ∈ m.get? name, ∀ b ∈ others.get? name, a.Fits b) ∧
      ∀ name, t.get? name = together ((m.get? name).toList ++ (others.get? name).toList) := by
  unfold merged mergeAll at h
  split at h
  · rename_i t' run
    cases h
    have fit := entriesFit_of_mergeEntries (nodup_names others) run
    obtain ⟨t', run', reads⟩ := mergeEntries_of_fit (nodup_names others) fit
    rw [run] at run'
    cases run'
    exact ⟨entriesFit_iff.1 fit, reads⟩
  · cases h

end Input

/-! ## Documents -/

namespace Document

/-- The declarations of an input in some documents, in their order. -/
def declarations (ds : List Document) (name : String) : List Input :=
  ds.filterMap fun d => d.inputs.get? name

/-- All declarations of each input agree on the kind, and on the pattern where they give one. -/
def Compatible (ds : List Document) : Prop := ∀ name, Input.AllFit (declarations ds name)

/-- What some documents say together: the names in the order in which they came up, each with its last
definition, all paths to flush, and of each input what its declarations say together. -/
structure Unites (ds : List Document) (d : Document) : Prop where
  inputs : ∀ name, d.inputs.get? name = Input.together (declarations ds name)
  names : d.parameters.keys = (ds.flatMap (·.parameters.keys)).eraseDups
  definitions : ∀ name, d.parameters.get? name =
    (ds.filterMap (·.parameters.get? name)).getLast?
  flushPaths : d.flushPaths = ds.flatMap (·.flushPaths)

theorem Unites.nil : Unites [] {} := ⟨fun _ => rfl, rfl, fun _ => rfl, rfl⟩

theorem Unites.singleton (d : Document) : Unites [d] d := by
  refine ⟨fun name => ?_, ?_, fun name => ?_, by simp⟩
  · cases h : d.inputs.get? name <;> simp [declarations, h, Input.together]
  · rw [List.flatMap_singleton]
    exact (OrderedMap.eraseDups_of_nodup d.parameters.nodup).symm
  · cases h : d.parameters.get? name <;> simp [h]

/-- Only one document is what some documents say together. -/
theorem Unites.unique {ds : List Document} {d d' : Document} (h : Unites ds d)
    (h' : Unites ds d') : d = d' := by
  have inputs : d.inputs = d'.inputs :=
    NameMap.ext_get? fun name => (h.inputs name).trans (h'.inputs name).symm
  have parameters : d.parameters = d'.parameters :=
    OrderedMap.ext_keys (h.names.trans h'.names.symm) fun name =>
      (h.definitions name).trans (h'.definitions name).symm
  have flushPaths : d.flushPaths = d'.flushPaths := h.flushPaths.trans h'.flushPaths.symm
  cases d
  cases d'
  simp only at inputs parameters flushPaths
  subst inputs parameters flushPaths
  rfl

section
variable {ls rs : List Document} {l r : Document}

theorem declarations_append (ls rs : List Document) (name : String) :
    declarations (ls ++ rs) name = declarations ls name ++ declarations rs name :=
  List.filterMap_append

theorem merge_of_inputs {inputs : Inputs} (h : Input.merged l.inputs r.inputs = .ok inputs) :
    l.merge r = .ok {
      inputs
      parameters := r.parameters.entries.foldl (fun m e => m.insert e.1 e.2) l.parameters
      flushPaths := l.flushPaths ++ r.flushPaths } := by
  rw [Document.merge, h]
  rfl

theorem Unites.merge (hl : Unites ls l) (hr : Unites rs r) {d : Document}
    (h : l.merge r = .ok d) : Unites (ls ++ rs) d := by
  obtain ⟨inputs, parameters, paths⟩ := merge_ok h
  refine ⟨fun name => ?_, ?_, fun name => ?_, ?_⟩
  · rw [(Input.merged_ok inputs).2, hl.inputs, hr.inputs, declarations_append,
      ← Input.together_append]
  · have there : r.parameters.entries.map (·.1) = r.parameters.keys := rfl
    rw [parameters, OrderedMap.keys_foldl_insert, there, hl.names, hr.names,
      OrderedMap.eraseDups_append_eraseDups, List.flatMap_append]
  · have last : OrderedMap.find? name r.parameters.entries = r.parameters.get? name := rfl
    rw [parameters, OrderedMap.get?_foldl_insert r.parameters.nodup, last, hr.definitions,
      hl.definitions, List.filterMap_append, List.getLast?_append]
  · rw [paths, hl.flushPaths, hr.flushPaths, List.flatMap_append]

theorem Compatible.singleton (d : Document) : Compatible [d] := by
  intro name x hx y hy
  cases h : d.inputs.get? name with
  | none => simp [declarations, h] at hx
  | some a =>
    simp only [declarations, List.filterMap_cons, h, List.filterMap_nil, List.mem_singleton] at hx hy
    rw [hx, hy]
    exact .refl a

theorem Compatible.parts (h : Compatible (ls ++ rs)) : Compatible ls ∧ Compatible rs := by
  simp only [Compatible, declarations_append, Input.allFit_append, forall_and] at h
  exact ⟨h.1, h.2.1⟩

theorem compatible_append (hl : Unites ls l) (hr : Unites rs r) :
    Compatible (ls ++ rs) ↔ Compatible ls ∧ Compatible rs ∧
      ∀ name, ∀ a ∈ l.inputs.get? name, ∀ b ∈ r.inputs.get? name, a.Fits b := by
  simp only [Compatible, declarations_append, Input.allFit_append, hl.inputs, hr.inputs,
    forall_and]

end

/-! ## Groupings -/

/-- A way of putting some documents together. -/
inductive Grouping where
  | none
  | one (d : Document)
  | both (l r : Grouping)

namespace Grouping

def documents : Grouping → List Document
  | .none => []
  | .one d => [d]
  | .both l r => l.documents ++ r.documents

def merged : Grouping → Except Error Document
  | .none => .ok {}
  | .one d => .ok d
  | .both l r => do (← l.merged).merge (← r.merged)

/-- Each document behind those before it. -/
def row : List Document → Grouping → Grouping
  | [], g => g
  | d :: rest, g => row rest (.both g (.one d))

theorem documents_row (ds : List Document) (g : Grouping) :
    (row ds g).documents = g.documents ++ ds := by
  induction ds generalizing g with
  | nil => simp [row]
  | cons d rest ih => simp [row, ih, documents]

theorem merged_row (ds : List Document) (g : Grouping) :
    (row ds g).merged = g.merged >>= fun d => ds.foldlM merge d := by
  induction ds generalizing g with
  | nil => simp [row]
  | cons d rest ih =>
    rw [row, ih, merged]
    cases g.merged <;> rfl

theorem unites_of_merged (g : Grouping) {d : Document} (h : g.merged = .ok d) :
    Unites g.documents d ∧ Compatible g.documents := by
  induction g generalizing d with
  | none =>
    cases h
    exact ⟨.nil, fun name x hx => nomatch hx⟩
  | one e =>
    cases h
    exact ⟨.singleton e, .singleton e⟩
  | both g k ihg ihk =>
    obtain ⟨l, hl, h⟩ := ok_of_bind h
    obtain ⟨r, hr, h⟩ := ok_of_bind h
    obtain ⟨left, fitLeft⟩ := ihg hl
    obtain ⟨right, fitRight⟩ := ihk hr
    refine ⟨left.merge right h, (compatible_append left right).2 ⟨fitLeft, fitRight, ?_⟩⟩
    exact (Input.merged_ok (merge_ok h).1).1

theorem exists_merged (g : Grouping) (fit : Compatible g.documents) : ∃ d, g.merged = .ok d := by
  induction g with
  | none => exact ⟨_, rfl⟩
  | one d => exact ⟨d, rfl⟩
  | both g k ihg ihk =>
    obtain ⟨fitLeft, fitRight⟩ := fit.parts
    obtain ⟨l, hl⟩ := ihg fitLeft
    obtain ⟨r, hr⟩ := ihk fitRight
    have left := (g.unites_of_merged hl).1
    have right := (k.unites_of_merged hr).1
    -- what was merged of either half says whether the halves fit
    obtain ⟨inputs, joined⟩ := Input.merged_of_fit ((compatible_append left right).1 fit).2.2
    rw [merged, hl, hr]
    exact ⟨_, merge_of_inputs joined⟩

theorem merged_of_documents {g h : Grouping} (same : h.documents = g.documents) {d : Document}
    (hg : g.merged = .ok d) : h.merged = .ok d := by
  obtain ⟨left, fit⟩ := g.unites_of_merged hg
  rw [← same] at left fit
  obtain ⟨e, he⟩ := h.exists_merged fit
  rw [he, (h.unites_of_merged he).1.unique left]

end Grouping

/-- Merging some documents, however they are grouped, works exactly if all declarations of each input
agree on the kind, and on the pattern where they give one. Then every grouping of them ends with the same
document, and so does putting one behind the other: names stand in the order in which they came up, each
with its last definition, paths to flush are kept as often as they are given, and each input is as its first
declaration says, with the first pattern and the first description that any of them gives. The empty
document makes no difference on either side. -/
theorem merged_grouping (g : Grouping) :
    ((∃ d, g.merged = .ok d) ↔ Compatible g.documents) ∧
    (∀ d, g.merged = .ok d →
      Unites g.documents d ∧
      (∀ h : Grouping, h.documents = g.documents → h.merged = .ok d) ∧
      g.documents.foldlM merge {} = .ok d) ∧
    ∀ d : Document, merge {} d = .ok d ∧ merge d {} = .ok d := by
  refine ⟨⟨?_, g.exists_merged⟩, fun d hd => ⟨(g.unites_of_merged hd).1, ?_, ?_⟩,
    fun d => ⟨?_, ?_⟩⟩
  · rintro ⟨d, hd⟩
    exact (g.unites_of_merged hd).2
  · exact fun h same => Grouping.merged_of_documents same hd
  · have row := Grouping.merged_of_documents (Grouping.documents_row g.documents .none) hd
    rwa [Grouping.merged_row] at row
  · exact Grouping.merged_of_documents (g := .one d) (h := .both .none (.one d)) rfl rfl
  · exact Grouping.merged_of_documents (g := .one d) (h := .both (.one d) .none) rfl rfl

/-- Three documents that share a name, an input and a path. -/
def sharing : List Yaml.Mapping := [
  [(.string ".INPUT", .map [(.string "Env", .map [(.string "Description", .string "stage")])]),
    (.string ".FLUSH", .string "/app"),
    (.string "/a", .string "x"),
    (.string "/b", .string "y")],
  [(.string ".INPUT", .map [(.string "Env",
      .map [(.string "Pattern", .string "^p"), (.string "Default", .string "prod")])]),
    (.string "/c", .string "z")],
  [(.string ".INPUT", .map [(.string "Env",
      .map [(.string "Pattern", .string "^p"), (.string "Description", .string "other")])]),
    (.string ".FLUSH", .string "/app"),
    (.string "/a", .string "w")]]

/-- The pattern comes from the second document, so that the third one meets it only if the first two are
merged before. The default of the second is not taken. -/
theorem merged_grouping_sharing :
    ∃ a b c d, sharing.mapM (fun root => ofTree {} (.map root)) = .ok [a, b, c] ∧
      (Grouping.both (.both (.one a) (.one b)) (.one c)).merged = .ok d ∧
      (Grouping.both (.one a) (.both (.one b) (.one c))).merged = .ok d ∧
      d.parameters.keys = ["/a", "/b", "/c"] ∧ d.flushPaths = ["/app", "/app"] ∧
      d.inputs.get? "Env" =
        some { name := "Env", pattern := some "^p", description := some "stage" } := by
  obtain ⟨a, b, c, d, read, left, names, paths, env⟩ : ∃ a b c d,
      sharing.mapM (fun root => ofTree {} (.map root)) = .ok [a, b, c] ∧
      (Grouping.both (.both (.one a) (.one b)) (.one c)).merged = .ok d ∧
      d.parameters.keys = ["/a", "/b", "/c"] ∧ d.flushPaths = ["/app", "/app"] ∧
      d.inputs.get? "Env" =
        some { name := "Env", pattern := some "^p", description := some "stage" } :=
    ⟨_, _, _, _, rfl, rfl, by decide +kernel, by decide +kernel, by decide +kernel⟩
  obtain ⟨-, same, -⟩ := (merged_grouping _).2.1 d left
  exact ⟨a, b, c, d, read, left, same _ rfl, names, paths, env⟩

end Document

end ParamFile
