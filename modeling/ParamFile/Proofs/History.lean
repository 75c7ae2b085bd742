import ParamFile.Store.Basic

/-!
# The history of a store

A store goes through calls that change it (`Change`), refused ones among them. What its histories look
like (`Written`) is kept by every call (`Kept.change`), so it holds of every store that was empty once
(`kept_changed`): the versions of a stored name are numbered from one on, and each was written by an
admissible request whose value matched its pattern.

Requests for different names that are not stored are all granted, and each name gets what its request
says (`putEach_of_absent`).
-/

namespace ParamFile.Store

/-- A call that changes a store. -/
inductive Change where
  | put (r : PutRequest)
  | delete (names : List String)
  deriving DecidableEq, Repr

def change (s : Store) : Change → Store
  | .put r => (s.put r).2
  | .delete names => (s.delete names).2

/-- The store behind some calls. -/
def changed (s : Store) (changes : List Change) : Store := changes.foldl change s

/-! ## Single calls -/

theorem get?_remove (names : List String) (history : NameMap (List Record)) (name : String) :
    (remove names history).2.get? name =
      if name ∈ names then none else history.get? name := by
  induction names generalizing history with
  | nil => simp [remove]
  | cons n rest ih =>
    rw [remove, ih, NameMap.get?_erase]
    by_cases hr : name ∈ rest <;> by_cases hn : name = n <;> simp [hr, hn]

theorem get?_delete (s : Store) (names : List String) (name : String) :
    (s.delete names).2.history.get? name =
      if names.length ≤ greatestBatch ∧ name ∈ names then none else s.history.get? name := by
  unfold delete checkBatch
  by_cases h : greatestBatch < names.length
  · have few : ¬names.length ≤ greatestBatch := by omega
    simp only [h, if_true, few, false_and, if_false]
  · have few : names.length ≤ greatestBatch := by omega
    simp only [h, if_false, few, true_and]
    exact get?_remove names s.history name

/-- A put leaves the histories alone, or it matched its pattern and adds a version to its own. -/
theorem history_put (s : Store) (r : PutRequest) :
    (s.put r).2.history = s.history ∨
      PutRequest.check r = .ok () ∧
        (s.put r).2.history = s.history.insert r.name
          (s.versions r.name ++
            [PutRequest.record r (nextVersion (s.versions r.name)) (s.clock + 1)]) := by
  unfold put
  cases hc : PutRequest.check r with
  | error f => exact .inl rfl
  | ok _ =>
    dsimp only
    split
    · exact .inl rfl
    · exact .inr ⟨rfl, rfl⟩

/-! ## Versions -/

/-- Some versions are numbered from one on. -/
def Numbered (versions : List Record) : Prop :=
  ∀ (i : Nat) (r : Record), versions[i]? = some r → r.version = i + 1

theorem Numbered.nextVersion {versions : List Record} (h : Numbered versions) :
    nextVersion versions = versions.length + 1 := by
  unfold Store.nextVersion
  rw [List.getLast?_eq_getElem?]
  cases hl : versions[versions.length - 1]? with
  | none =>
    have := List.getElem?_eq_none_iff.1 hl
    have empty : versions.length = 0 := by omega
    simp [empty]
  | some r =>
    have := h _ r hl
    have := (List.getElem?_eq_some_iff.1 hl).1
    simp only
    omega

theorem Numbered.ascending {versions : List Record} (h : Numbered versions) :
    versions.Pairwise fun a b => a.version < b.version := by
  rw [List.pairwise_iff_getElem]
  intro i j hi hj lt
  have first := h i _ (List.getElem?_eq_getElem hi)
  have second := h j _ (List.getElem?_eq_getElem hj)
  omega

theorem Numbered.eq_of_version {versions : List Record} (h : Numbered versions) {a b : Record}
    (ha : a ∈ versions) (hb : b ∈ versions) (same : a.version = b.version) : a = b := by
  obtain ⟨i, hi, rfl⟩ := List.getElem_of_mem ha
  obtain ⟨j, hj, rfl⟩ := List.getElem_of_mem hb
  have first := h i _ (List.getElem?_eq_getElem hi)
  have second := h j _ (List.getElem?_eq_getElem hj)
  have place : i = j := by omega
  subst place
  rfl

/-- The versions of a name: there is one, they are numbered, and each was written by a request that
satisfies `Q` and matched its pattern. -/
structure Written (Q : PutRequest → Prop) (name : String) (versions : List Record) : Prop where
  ne_nil : versions ≠ []
  numbered : Numbered versions
  request : ∀ r ∈ versions, ∃ q version tick, Q q ∧ PutRequest.check q = .ok () ∧
    q.name = name ∧ r = PutRequest.record q version tick

/-- The versions of every stored name were written so. -/
def Kept (Q : PutRequest → Prop) (s : Store) : Prop :=
  ∀ name versions, s.history.get? name = some versions → Written Q name versions

section
variable {Q : PutRequest → Prop} {s : Store}

theorem Kept.numbered (h : Kept Q s) (name : String) : Numbered (s.versions name) := by
  unfold versions
  cases hv : s.history.get? name with
  | none =>
    intro i r hi
    simp at hi
  | some versions => exact (h name versions hv).numbered

/-- A request that matched its pattern adds one more version. -/
theorem Kept.append (h : Kept Q s) {q : PutRequest} (hq : Q q)
    (checked : PutRequest.check q = .ok ()) (tick : Nat) :
    Written Q q.name (s.versions q.name ++
      [PutRequest.record q (nextVersion (s.versions q.name)) tick]) := by
  refine ⟨by simp, fun i r hi => ?_, fun r hr => ?_⟩
  · rw [(h.numbered q.name).nextVersion, List.getElem?_append] at hi
    split at hi
    · exact h.numbered q.name i r hi
    · obtain ⟨hlt, rfl⟩ := List.getElem?_eq_some_iff.1 hi
      simp only [List.length_singleton] at hlt
      simp only [List.getElem_singleton, PutRequest.record]
      omega
  · rcases List.mem_append.1 hr with hr | hr
    · unfold versions at hr
      cases hv : s.history.get? q.name with
      | none => simp [hv] at hr
      | some versions =>
        rw [hv, Option.getD_some] at hr
        exact (h q.name versions hv).request r hr
    · exact ⟨q, _, tick, hq, checked, rfl, List.mem_singleton.1 hr⟩

theorem Kept.change (h : Kept Q s) (c : Change) (hc : ∀ r, c = .put r → Q r) :
    Kept Q (s.change c) := by
  intro name versions hv
  cases c with
  | put r =>
    rcases history_put s r with same | ⟨checked, eq⟩
    · rw [Store.change, same] at hv
      exact h name versions hv
    · rw [Store.change, eq, NameMap.get?_insert] at hv
      split at hv
      · rename_i named
        cases hv
        rw [named]
        exact h.append (hc r rfl) checked _
      · exact h name versions hv
  | delete names =>
    rw [Store.change, get?_delete] at hv
    split at hv
    · cases hv
    · exact h name versions hv

theorem Kept.changed {changes : List Change} (h : Kept Q s)
    (hc : ∀ r, .put r ∈ changes → Q r) : Kept Q (s.changed changes) := by
  induction changes generalizing s with
  | nil => exact h
  | cons c rest ih =>
    refine ih (h.change c fun r e => hc r ?_) fun r hr => hc r (List.mem_cons_of_mem _ hr)
    rw [e]
    exact List.mem_cons_self

/-- The histories of a store that was empty once. -/
theorem kept_changed (empty : s.history = .empty) {changes : List Change}
    (hc : ∀ r, .put r ∈ changes → Q r) : Kept Q (s.changed changes) :=
  Kept.changed (fun name versions hv => by simp [empty] at hv) hc

/-! ## Latest versions -/

theorem Kept.exists_latest (h : Kept Q s) {name : String} (stored : name ∈ s.names) :
    ∃ r, s.latest? name = some r := by
  obtain ⟨versions, hv⟩ := Option.isSome_iff_exists.1 (NameMap.mem_names.1 stored)
  refine ⟨versions.getLast (h name versions hv).ne_nil, ?_⟩
  simp only [latest?, hv, Option.bind_some]
  exact List.getLast?_eq_some_getLast _

theorem mem_names_of_latest {name : String} {r : Record} (h : s.latest? name = some r) :
    name ∈ s.names := by
  refine NameMap.mem_names.2 ?_
  obtain ⟨versions, hv, -⟩ := Option.bind_eq_some_iff.1 h
  rw [hv]
  rfl

theorem getLast?_versions (s : Store) (name : String) :
    (s.versions name).getLast? = s.latest? name := by
  unfold versions latest?
  cases s.history.get? name <;> rfl

/-- The latest version of a name was written by a request for it. -/
theorem Kept.latest (h : Kept Q s) {name : String} {r : Record} (hr : s.latest? name = some r) :
    ∃ q version tick, Q q ∧ PutRequest.check q = .ok () ∧ q.name = name ∧
      r = PutRequest.record q version tick := by
  obtain ⟨versions, hv, last⟩ := Option.bind_eq_some_iff.1 hr
  exact (h name versions hv).request r (List.mem_of_getLast? last)

theorem Kept.latest_name (h : Kept Q s) {name : String} {r : Record}
    (hr : s.latest? name = some r) : r.name = name := by
  obtain ⟨q, version, tick, -, -, named, rfl⟩ := h.latest hr
  exact named

end

/-! ## Writing new names -/

/-- Only value and pattern of a request decide whether they match. -/
theorem check_congr {q r : PutRequest} (hv : q.value = r.value)
    (hp : q.allowedPattern = r.allowedPattern) (h : PutRequest.check q = .ok ()) :
    PutRequest.check r = .ok () := by
  unfold PutRequest.check at h ⊢
  rw [← hp, ← hv]
  split
  · rfl
  · rename_i pattern eq
    rw [eq] at h
    dsimp only at h ⊢
    split at h
    · cases h
    · rfl
    · cases h

theorem put_of_absent {s : Store} {r : PutRequest} (checked : PutRequest.check r = .ok ())
    (absent : s.history.get? r.name = none) :
    s.put r = (.ok (), { s with puts := r :: s.puts }.write r) := by
  unfold put
  rw [checked]
  simp [NameMap.contains, absent]

/-- Writes some parameters one behind the other, up to the first request that is refused; answers
its name with the reason. -/
def putEach : List PutRequest → Store → Except (String × Failure) Unit × Store
  | [], s => (.ok (), s)
  | r :: rest, s =>
    match s.put r with
    | (.ok (), t) => putEach rest t
    | (.error f, t) => (.error (r.name, f), t)

theorem mem_names_put {s t : Store} {r : PutRequest} (granted : s.put r = (.ok (), t))
    {name : String} : name ∈ t.names ↔ name = r.name ∨ name ∈ s.names := by
  unfold put at granted
  cases hc : PutRequest.check r with
  | error f =>
    rw [hc] at granted
    cases granted
  | ok _ =>
    rw [hc] at granted
    dsimp only at granted
    split at granted
    · cases granted
    · cases granted
      exact NameMap.mem_names_insert

theorem mem_names_putEach {s t : Store} {rs : List PutRequest} (granted : putEach rs s = (.ok (), t))
    {name : String} : name ∈ t.names ↔ name ∈ rs.map (·.name) ∨ name ∈ s.names := by
  induction rs generalizing s with
  | nil =>
    cases granted
    simp
  | cons r rest ih =>
    rw [putEach] at granted
    split at granted
    · rename_i u written
      rw [ih granted, mem_names_put written, List.map_cons, List.mem_cons]
      exact or_left_comm.trans or_assoc.symm
    · cases granted

/-- Requests for different names that are not stored are all granted. Their names get what was
written, and all other names are left alone. -/
theorem putEach_of_absent {s : Store} {rs : List PutRequest}
    (checked : ∀ r ∈ rs, PutRequest.check r = .ok ()) (nodup : (rs.map (·.name)).Nodup)
    (absent : ∀ r ∈ rs, s.history.get? r.name = none) :
    (putEach rs s).1 = .ok () ∧
      (∀ r ∈ rs, ∃ tick, (putEach rs s).2.history.get? r.name =
        some [PutRequest.record r 1 tick]) ∧
      ∀ name, name ∉ rs.map (·.name) →
        (putEach rs s).2.history.get? name = s.history.get? name := by
  induction rs generalizing s with
  | nil => simp [putEach]
  | cons r rest ih =>
    simp only [List.map_cons, List.nodup_cons] at nodup
    have here : s.history.get? r.name = none := absent r List.mem_cons_self
    have written : ({ s with puts := r :: s.puts }.write r).history =
        s.history.insert r.name [PutRequest.record r 1 (s.clock + 1)] := by
      simp [write, versions, here, nextVersion]
    -- the first request does not touch the names of the others
    have step := ih (s := { s with puts := r :: s.puts }.write r)
      (fun q hq => checked q (List.mem_cons_of_mem _ hq)) nodup.2 fun q hq => by
        rw [written, NameMap.get?_insert, if_neg]
        · exact absent q (List.mem_cons_of_mem _ hq)
        · exact fun eq => nodup.1 (List.mem_map.2 ⟨q, hq, eq⟩)
    rw [putEach, put_of_absent (checked r List.mem_cons_self) here]
    refine ⟨step.1, fun q hq => ?_, fun name hname => ?_⟩
    · rcases List.mem_cons.1 hq with rfl | hq
      · exact ⟨s.clock + 1, (step.2.2 q.name nodup.1).trans (by rw [written, NameMap.get?_insert_self])⟩
      · exact step.2.1 q hq
    · simp only [List.map_cons, List.mem_cons, not_or] at hname
      refine (step.2.2 name hname.2).trans ?_
      rw [written, NameMap.get?_insert, if_neg hname.1]

/-- After requests for different names, a store that was empty holds what they wrote and no more. -/
theorem putEach_of_empty {s : Store} (empty : s.history = .empty) {rs : List PutRequest}
    (checked : ∀ r ∈ rs, PutRequest.check r = .ok ()) (nodup : (rs.map (·.name)).Nodup) :
    (putEach rs s).1 = .ok () ∧
      (∀ r ∈ rs, ∃ tick, (putEach rs s).2.latest? r.name = some (PutRequest.record r 1 tick)) ∧
      ∀ name, name ∈ (putEach rs s).2.names ↔ name ∈ rs.map (·.name) := by
  have absent : ∀ name, s.history.get? name = none := by
    intro name
    rw [empty, NameMap.get?_empty]
  have unstored : ∀ name, name ∉ s.names := by
    intro name stored
    have there := NameMap.mem_names.1 stored
    rw [absent] at there
    cases there
  obtain ⟨granted, written, -⟩ := putEach_of_absent checked nodup fun r _ => absent r.name
  refine ⟨granted, fun r hr => ?_, fun name => ?_⟩
  · obtain ⟨tick, versions⟩ := written r hr
    refine ⟨tick, ?_⟩
    rw [latest?, versions]
    rfl
  · rw [mem_names_putEach (Prod.ext granted rfl), or_iff_left (unstored name)]

end ParamFile.Store
