import ParamFile.Proofs.History

/-!
# What a store recounts

A run of calls, of which some are refused, leaves a store that recounts the granted ones
(`Recounts.changed`): the versions of a name are what was put under it since it was deleted last, in the
order of the puts (`standing`), numbered from one on and dated by the place of the put among all puts.
A refused put leaves histories and clock alone, and one that must not overwrite is granted only for a
name that is not stored (`put_cases`).
-/

namespace ParamFile.Store

/-! ## What the granted calls leave

Lists of granted calls have the last call first. -/

def grants (s : Store) : Change → Bool
  | .put r => (s.put r).1.isOk
  | .delete names => (s.delete names).1.isOk

def granted (s : Store) : List Change → List Change
  | [] => []
  | c :: rest => (s.change c).granted rest ++ if s.grants c then [c] else []

/-- The puts among some calls, the oldest first. -/
def putsOf : List Change → List PutRequest
  | [] => []
  | .put r :: earlier => putsOf earlier ++ [r]
  | .delete _ :: earlier => putsOf earlier

/-- The puts whose names have not been deleted since, the oldest first, each with its place among all
puts. -/
def standing : List Change → List (Nat × PutRequest)
  | [] => []
  | .put r :: earlier => standing earlier ++ [((putsOf earlier).length, r)]
  | .delete names :: earlier => (standing earlier).filter fun e => e.2.name ∉ names

/-- Those of them that are for one name. -/
def standingFor (name : String) (calls : List Change) : List (Nat × PutRequest) :=
  (standing calls).filter fun e => e.2.name = name

/-- The version that a put leaves behind `i` others of its name, if the clock started at `start`: all that
was put, numbered from one on and dated by the place of the put among all puts. -/
def versionOf (start i : Nat) (e : Nat × PutRequest) : Record where
  name := e.2.name
  kind := e.2.kind
  value := e.2.value
  keyId := e.2.keyId
  allowedPattern := e.2.allowedPattern
  description := e.2.description
  version := i + 1
  date := some (epoch + (start + e.1 + 1 : Nat))
  user := some user

/-- The versions that some puts leave, the oldest first. -/
def recorded (start : Nat) (puts : List (Nat × PutRequest)) : List Record :=
  puts.mapIdx fun i e => versionOf start i e

theorem record_eq_versionOf (r : PutRequest) (start i place : Nat) :
    PutRequest.record r (i + 1) (start + place + 1) = versionOf start i (place, r) := rfl

theorem standingFor_put (name : String) (r : PutRequest) (calls : List Change) :
    standingFor name (.put r :: calls) =
      if r.name = name then standingFor name calls ++ [((putsOf calls).length, r)]
      else standingFor name calls := by
  simp only [standingFor, standing, List.filter_append]
  by_cases h : r.name = name <;> simp [h]

theorem standingFor_delete (name : String) (names : List String) (calls : List Change) :
    standingFor name (.delete names :: calls) =
      if name ∈ names then [] else standingFor name calls := by
  simp only [standingFor, standing, List.filter_filter]
  by_cases h : name ∈ names
  · rw [if_pos h, List.filter_eq_nil_iff]
    intro e _ both
    simp only [Bool.and_eq_true, decide_eq_true_eq] at both
    exact both.2 (both.1 ▸ h)
  · rw [if_neg h]
    refine List.filter_congr fun e _ => ?_
    by_cases named : e.2.name = name
    · simp [named, h]
    · simp [named]

/-- The place of a put is the one that it has among all puts. -/
theorem getElem?_putsOf {calls : List Change} {e : Nat × PutRequest} (h : e ∈ standing calls) :
    (putsOf calls)[e.1]? = some e.2 := by
  induction calls with
  | nil => cases h
  | cons c earlier ih =>
    cases c with
    | put r =>
      rw [standing, List.mem_append] at h
      rw [putsOf]
      rcases h with h | h
      · have there := ih h
        rw [List.getElem?_append_left (List.getElem?_eq_some_iff.1 there).1]
        exact there
      · obtain rfl := List.mem_singleton.1 h
        simp
    | delete names =>
      rw [standing] at h
      exact ih (List.mem_filter.1 h).1

theorem standing_ascending (calls : List Change) :
    (standing calls).Pairwise fun a b => a.1 < b.1 := by
  induction calls with
  | nil => exact .nil
  | cons c earlier ih =>
    cases c with
    | put r =>
      rw [standing, List.pairwise_append]
      refine ⟨ih, List.pairwise_singleton _ _, fun a ha b hb => ?_⟩
      obtain rfl := List.mem_singleton.1 hb
      exact (List.getElem?_eq_some_iff.1 (getElem?_putsOf ha)).1
    | delete names => exact ih.sublist List.filter_sublist

theorem eq_of_place {calls : List Change} {a b : Nat × PutRequest} (ha : a ∈ standing calls)
    (hb : b ∈ standing calls) (same : a.1 = b.1) : a = b := by
  have first := getElem?_putsOf ha
  have second := getElem?_putsOf hb
  rw [same, second] at first
  exact Prod.ext same (Option.some.inj first).symm

theorem mem_standingFor {name : String} {calls : List Change} {e : Nat × PutRequest} :
    e ∈ standingFor name calls ↔ e ∈ standing calls ∧ e.2.name = name := by
  rw [standingFor, List.mem_filter, decide_eq_true_eq]

theorem getElem?_recorded {start : Nat} {puts : List (Nat × PutRequest)} {i : Nat} {r : Record} :
    (recorded start puts)[i]? = some r ↔
      ∃ e, puts[i]? = some e ∧ r = versionOf start i e := by
  rw [recorded, List.getElem?_mapIdx, Option.map_eq_some_iff]
  exact exists_congr fun e => and_congr_right fun _ => eq_comm

theorem numbered_recorded (start : Nat) (puts : List (Nat × PutRequest)) :
    Numbered (recorded start puts) := by
  intro i r hr
  obtain ⟨e, -, rfl⟩ := getElem?_recorded.1 hr
  rfl

/-! ## What a call does -/

/-- A put is refused and leaves histories and clock alone, or it adds a version. -/
theorem put_cases (s : Store) (r : PutRequest) :
    (s.grants (.put r) = false ∧ (s.put r).2.history = s.history ∧ (s.put r).2.clock = s.clock) ∨
    (s.grants (.put r) = true ∧ (r.overwrite = true ∨ r.name ∉ s.names) ∧
      (s.put r).2.history = s.history.insert r.name (s.versions r.name ++
        [PutRequest.record r (nextVersion (s.versions r.name)) (s.clock + 1)]) ∧
      (s.put r).2.clock = s.clock + 1) := by
  show ((s.put r).1.isOk = false ∧ _) ∨ ((s.put r).1.isOk = true ∧ _)
  unfold put
  cases hc : PutRequest.check r with
  | error f => exact .inl ⟨rfl, rfl, rfl⟩
  | ok _ =>
    dsimp only
    split
    · exact .inl ⟨rfl, rfl, rfl⟩
    · rename_i allowed
      refine .inr ⟨rfl, ?_, rfl, rfl⟩
      rw [names, NameMap.mem_names, ← NameMap.contains]
      revert allowed
      cases s.history.contains r.name <;> cases r.overwrite <;> simp

/-- A deletion is refused and changes nothing, or it takes the names away that it lists. -/
theorem delete_cases (s : Store) (names : List String) :
    (s.grants (.delete names) = false ∧ (s.delete names).2 = s) ∨
    (s.grants (.delete names) = true ∧
      (∀ name, (s.delete names).2.history.get? name =
        if name ∈ names then none else s.history.get? name) ∧
      (s.delete names).2.clock = s.clock) := by
  show ((s.delete names).1.isOk = false ∧ _) ∨ ((s.delete names).1.isOk = true ∧ _)
  unfold delete
  cases hc : checkBatch names with
  | error f => exact .inl ⟨rfl, rfl⟩
  | ok _ => exact .inr ⟨rfl, get?_remove names s.history, rfl⟩

theorem change_of_refused {s : Store} {c : Change} (refused : s.grants c = false) :
    (s.change c).history = s.history ∧ (s.change c).clock = s.clock := by
  cases c with
  | put r =>
    rcases put_cases s r with ⟨-, same⟩ | ⟨granted, -⟩
    · exact same
    · rw [refused] at granted
      cases granted
  | delete names =>
    rcases delete_cases s names with ⟨-, same⟩ | ⟨granted, -⟩
    · rw [change, same]
      exact ⟨rfl, rfl⟩
    · rw [refused] at granted
      cases granted

theorem absent_of_granted {s : Store} {r : PutRequest} (granted : s.grants (.put r) = true)
    (keeps : r.overwrite = false) : r.name ∉ s.names := by
  rcases put_cases s r with ⟨refused, -⟩ | ⟨-, overwrites | absent, -⟩
  · rw [granted] at refused
    cases refused
  · rw [keeps] at overwrites
    cases overwrites
  · exact absent

/-! ## Stores that recount some calls -/

/-- The store, whose clock was at `start` when it was empty, holds what these calls put and did not
delete again. -/
structure Recounts (start : Nat) (calls : List Change) (s : Store) : Prop where
  ne_nil : ∀ name versions, s.history.get? name = some versions → versions ≠ []
  versions : ∀ name, s.versions name = recorded start (standingFor name calls)
  clock : s.clock = start + (putsOf calls).length

section
variable {start : Nat} {calls : List Change} {s : Store}

theorem versions_congr {s t : Store} {name : String} (h : s.history.get? name = t.history.get? name) :
    s.versions name = t.versions name := by
  rw [versions, h, ← versions]

theorem Recounts.put (h : Recounts start calls s) {r : PutRequest} {t : Store}
    (history : t.history = s.history.insert r.name (s.versions r.name ++
      [PutRequest.record r (nextVersion (s.versions r.name)) (s.clock + 1)]))
    (clock : t.clock = s.clock + 1) : Recounts start (.put r :: calls) t := by
  refine ⟨fun name versions hv => ?_, fun name => ?_, ?_⟩
  · rw [history, NameMap.get?_insert] at hv
    split at hv
    · cases hv
      simp
    · exact h.ne_nil name versions hv
  · rw [standingFor_put]
    by_cases named : r.name = name
    · subst named
      -- what stands for the name is numbered without gaps, so the next number is its length
      have next : nextVersion (s.versions r.name) = (standingFor r.name calls).length + 1 := by
        rw [h.versions, (numbered_recorded start _).nextVersion, recorded, List.length_mapIdx]
      rw [if_pos rfl, Store.versions, history, NameMap.get?_insert_self, Option.getD_some, next,
        h.clock, h.versions, recorded, recorded, List.mapIdx_concat, record_eq_versionOf]
    · rw [if_neg named, ← h.versions]
      apply versions_congr
      rw [history, NameMap.get?_insert, if_neg (Ne.symm named)]
  · rw [clock, h.clock, putsOf, List.length_append, List.length_singleton, Nat.add_assoc]

theorem Recounts.delete (h : Recounts start calls s) {names : List String} {t : Store}
    (history : ∀ name, t.history.get? name = if name ∈ names then none else s.history.get? name)
    (clock : t.clock = s.clock) : Recounts start (.delete names :: calls) t := by
  refine ⟨fun name versions hv => ?_, fun name => ?_, clock.trans h.clock⟩
  · rw [history] at hv
    split at hv
    · cases hv
    · exact h.ne_nil name versions hv
  · rw [standingFor_delete]
    by_cases listed : name ∈ names
    · rw [if_pos listed, Store.versions, history, if_pos listed]
      rfl
    · rw [if_neg listed, ← h.versions]
      apply versions_congr
      rw [history, if_neg listed]

theorem Recounts.change (h : Recounts start calls s) (c : Change) :
    Recounts start ((if s.grants c then [c] else []) ++ calls) (s.change c) := by
  cases hg : s.grants c with
  | false =>
    obtain ⟨history, clock⟩ := change_of_refused hg
    refine ⟨fun name versions hv => ?_, fun name => ?_, clock.trans h.clock⟩
    · rw [history] at hv
      exact h.ne_nil name versions hv
    · rw [versions_congr (t := s) (by rw [history])]
      exact h.versions name
  | true =>
    cases c with
    | put r =>
      rcases put_cases s r with ⟨refused, -⟩ | ⟨-, -, history, clock⟩
      · rw [hg] at refused
        cases refused
      · exact h.put history clock
    | delete names =>
      rcases delete_cases s names with ⟨refused, -⟩ | ⟨-, history, clock⟩
      · rw [hg] at refused
        cases refused
      · exact h.delete history clock

theorem Recounts.changed (h : Recounts start calls s) (changes : List Change) :
    Recounts start (s.granted changes ++ calls) (s.changed changes) := by
  induction changes generalizing s calls with
  | nil => exact h
  | cons c rest ih =>
    rw [granted, List.append_assoc]
    exact ih (h.change c)

theorem recounts_empty (empty : s.history = .empty) : Recounts s.clock [] s := by
  have none : ∀ name, s.history.get? name = none := by
    intro name
    rw [empty, NameMap.get?_empty]
  refine ⟨fun name versions hv => ?_, fun name => ?_, rfl⟩
  · rw [none] at hv
    cases hv
  · rw [Store.versions, none]
    rfl

/-! ## What is stored -/

theorem Recounts.mem_names (h : Recounts start calls s) {name : String} :
    name ∈ s.names ↔ s.versions name ≠ [] := by
  rw [names, NameMap.mem_names, Store.versions]
  cases hv : s.history.get? name with
  | none => simp
  | some versions => simp [h.ne_nil name versions hv]

theorem Recounts.mem_names_iff (h : Recounts start calls s) {name : String} :
    name ∈ s.names ↔ standingFor name calls ≠ [] := by
  rw [h.mem_names, h.versions, recorded, ne_eq, List.mapIdx_eq_nil_iff]

/-- A version of a name tells which put wrote it. -/
theorem Recounts.getElem? (h : Recounts start calls s) {name : String} {i : Nat} {r : Record}
    (hr : (s.versions name)[i]? = some r) :
    ∃ e, (standingFor name calls)[i]? = some e ∧ e ∈ standing calls ∧ e.2.name = name ∧
      r = versionOf start i e := by
  rw [h.versions, getElem?_recorded] at hr
  obtain ⟨e, he, written⟩ := hr
  obtain ⟨stands, named⟩ := mem_standingFor.1 (List.mem_of_getElem? he)
  exact ⟨e, he, stands, named, written⟩

theorem Recounts.named (h : Recounts start calls s) {name : String} {r : Record}
    (hr : r ∈ s.versions name) : r.name = name := by
  obtain ⟨i, hi⟩ := List.getElem?_of_mem hr
  obtain ⟨e, -, -, named, rfl⟩ := h.getElem? hi
  exact named

theorem Recounts.numbered (h : Recounts start calls s) (name : String) :
    Numbered (s.versions name) := by
  rw [h.versions]
  exact numbered_recorded start _

/-- The latest version of a name is what the last of its standing puts left. -/
theorem Recounts.latest (h : Recounts start calls s) {name : String} (stored : name ∈ s.names) :
    ∃ i e, (s.versions name).length = i + 1 ∧ (standingFor name calls).getLast? = some e ∧
      s.latest? name = some (versionOf start i e) := by
  have ne := h.mem_names_iff.1 stored
  obtain ⟨i, length⟩ : ∃ i, (standingFor name calls).length = i + 1 :=
    Nat.exists_eq_succ_of_ne_zero fun none => ne (List.eq_nil_of_length_eq_zero none)
  obtain ⟨e, last⟩ : ∃ e, (standingFor name calls).getLast? = some e :=
    ⟨_, List.getLast?_eq_some_getLast ne⟩
  refine ⟨i, e, ?_, last, ?_⟩
  · rw [h.versions, recorded, List.length_mapIdx, length]
  · rw [← getLast?_versions, h.versions, recorded, List.getLast?_mapIdx, last, Option.map_some, length,
      Nat.add_sub_cancel]

/-- Two versions with one date are the same version of the same name. -/
theorem Recounts.eq_of_date (h : Recounts start calls s) {a b : String} {i j : Nat} {q r : Record}
    (hq : (s.versions a)[i]? = some q) (hr : (s.versions b)[j]? = some r)
    (same : q.date = r.date) : a = b ∧ i = j := by
  obtain ⟨d, hd, stands, rfl, rfl⟩ := h.getElem? hq
  obtain ⟨e, he, stands', rfl, rfl⟩ := h.getElem? hr
  simp only [versionOf, Option.some.injEq] at same
  obtain rfl := eq_of_place stands stands' (by omega)
  refine ⟨rfl, ?_⟩
  -- no put stands twice for its name, so that its index is determined
  have ascending : (standingFor d.2.name calls).Pairwise fun a b => a.1 < b.1 :=
    (standing_ascending calls).sublist List.filter_sublist
  have once : (standingFor d.2.name calls).Nodup := by
    refine ascending.imp fun lt eq => ?_
    rw [eq] at lt
    exact Nat.lt_irrefl _ lt
  exact (List.getElem?_inj (List.getElem?_eq_some_iff.1 hd).1 once).1 (hd.trans he.symm)

end

/-- Take a store that was empty once and the calls of a run that were granted. A name is stored if a put
of it stands. Its versions bear the name, are numbered from one on and are what the standing puts wrote,
in their order; the latest is what the last of them wrote. Each is dated by the place of its put among all
puts, so that no two versions in the store have the same date. A refused call leaves histories and clock
alone, and a put that must not overwrite is granted only if its name is not stored. -/
theorem changed_recounts {s₀ s : Store} (empty : s₀.history = .empty) (changes : List Change)
    (run : s₀.changed changes = s) {calls : List Change} (granted : s₀.granted changes = calls) :
    (∀ name, name ∈ s.names ↔ standingFor name calls ≠ []) ∧
    (∀ name ∈ s.names, s.versions name ≠ [] ∧ (∀ r ∈ s.versions name, r.name = name) ∧
      ∀ (i : Nat) (r : Record), (s.versions name)[i]? = some r → r.version = i + 1) ∧
    (∀ name, s.versions name = recorded s₀.clock (standingFor name calls)) ∧
    (∀ name ∈ s.names, ∃ i e, (s.versions name).length = i + 1 ∧
      (standingFor name calls).getLast? = some e ∧
      s.latest? name = some (versionOf s₀.clock i e)) ∧
    (∀ e ∈ standing calls, (putsOf calls)[e.1]? = some e.2) ∧
    (standing calls).Pairwise (fun d e => d.1 < e.1) ∧
    (∀ (a b : String) (i j : Nat) (q r : Record), (s.versions a)[i]? = some q →
      (s.versions b)[j]? = some r → q.date = r.date → a = b ∧ i = j) ∧
    (∀ c, s.grants c = false →
      (s.change c).history = s.history ∧ (s.change c).clock = s.clock) ∧
    ∀ r, s.grants (.put r) = true → r.overwrite = false → r.name ∉ s.names := by
  have recounts : Recounts s₀.clock calls s := by
    have all := (recounts_empty empty).changed changes
    rwa [run, granted, List.append_nil] at all
  refine ⟨fun name => recounts.mem_names_iff, fun name there => ?_, recounts.versions,
    fun name there => recounts.latest there, fun e => getElem?_putsOf, standing_ascending calls,
    fun a b i j q r => recounts.eq_of_date, fun c => change_of_refused, fun r allowed kept => ?_⟩
  · exact ⟨recounts.mem_names.1 there, fun r => recounts.named, recounts.numbered name⟩
  · exact absent_of_granted allowed kept

/-- Two names of which one is deleted and put again, with two puts and a deletion that are refused. -/
def reusedName : List Change := [
  .put { name := "/a", kind := .string, value := "1" },
  .put { name := "/b", kind := .string, value := "x", allowedPattern := "^[0-9]$" },
  .put { name := "/b", kind := .string, value := "x" },
  .put { name := "/a", kind := .string, value := "2" },
  .put { name := "/a", kind := .string, value := "3", overwrite := true },
  .delete ["/b", "/c"],
  .delete (List.replicate 11 "/a"),
  .put {
    name := "/b", kind := .secureString, value := "y", keyId := "k", allowedPattern := "^[a-z]$"
    description := "again" }]

/-- The name that is put again starts with its first version, which is dated behind the others. -/
theorem changed_recounts_reused :
    ({} : Store).history = .empty ∧
    (({} : Store).changed reusedName).versions "/a" = [
      { name := "/a", kind := .string, value := "1", version := 1, date := some 1700000001
        user := "arn:aws:iam::000000000000:user/memory" },
      { name := "/a", kind := .string, value := "3", version := 2, date := some 1700000003
        user := "arn:aws:iam::000000000000:user/memory" }] ∧
    (({} : Store).changed reusedName).versions "/b" = [
      { name := "/b", kind := .secureString, value := "y", keyId := "k", allowedPattern := "^[a-z]$"
        description := "again", version := 1, date := some 1700000004
        user := "arn:aws:iam::000000000000:user/memory" }] := by
  have empty : ({} : Store).history = .empty := rfl
  obtain ⟨-, -, versions, -⟩ := changed_recounts empty reusedName rfl rfl
  refine ⟨empty, ?_, ?_⟩
  · rw [versions]
    decide +kernel
  · rw [versions]
    decide +kernel

end ParamFile.Store
