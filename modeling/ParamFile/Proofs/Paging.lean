import ParamFile.Client.Read
import ParamFile.Proofs.Client
import ParamFile.Proofs.History

/-!
# Pages

All pages of a listing together are the listing, whatever their size (`Client.yields_loadAll`): a client
that reads a store (`Client.Reading`) loads one record behind the other, up to the first that cannot be
loaded. Under a path are the latest versions of the names there (`Store.under`); of a history the newest
version is the last one (`Store.Numbered.newestFirst`).
-/

namespace ParamFile

open ParamFile.Action

namespace Store

/-! ## Listings of a store -/

/-- The latest versions of the names under a path, in the order of the names. -/
def under (s : Store) (path : String) (recursive : Bool) : List Record :=
  (s.names.filter (isUnder path recursive)).filterMap s.latest?

section
variable {α : Type} {f : α → Except Failure Bool}

theorem filterAuxM_eq (l acc : List α) :
    l.filterAuxM f acc = (l.filterAuxM f []).map (· ++ acc) := by
  induction l generalizing acc with
  | nil => rfl
  | cons x l ih =>
    rw [List.filterAuxM, List.filterAuxM]
    rcases f x with e | b
    · rfl
    · show l.filterAuxM f (cond b (x :: acc) acc) = (l.filterAuxM f (cond b [x] [])).map _
      rw [ih, ih (cond b [x] [])]
      cases l.filterAuxM f [] <;> cases b <;> simp [Except.map]

theorem filterM_cons (x : α) (l : List α) :
    (x :: l).filterM f =
      f x >>= fun b => (l.filterM f).map fun kept => cond b (x :: kept) kept := by
  rw [List.filterM, List.filterM, List.filterAuxM]
  rcases f x with e | b
  · rfl
  · show (l.filterAuxM f (cond b [x] []) >>= _) = _
    rw [filterAuxM_eq]
    cases l.filterAuxM f [] with
    | error e => rfl
    | ok kept => cases b <;> simp [Except.map, bind, Except.bind, pure, Except.pure]

theorem filterM_cons_ok {x : α} {l kept : List α} (h : (x :: l).filterM f = .ok kept) :
    ∃ b rest, f x = .ok b ∧ l.filterM f = .ok rest ∧ kept = cond b (x :: rest) rest := by
  rw [filterM_cons] at h
  cases hx : f x with
  | error e =>
    rw [hx] at h
    cases h
  | ok b =>
    rw [hx] at h
    cases hl : l.filterM f with
    | error e =>
      rw [hl] at h
      cases h
    | ok rest =>
      rw [hl] at h
      cases h
      exact ⟨b, rest, rfl, rfl, rfl⟩

theorem filterM_all (h : ∀ x, f x = .ok true) (l : List α) : l.filterM f = .ok l := by
  induction l with
  | nil => rfl
  | cons x l ih =>
    rw [filterM_cons, h, ih]
    rfl

theorem filterM_sublist {l kept : List α} (h : l.filterM f = .ok kept) : kept.Sublist l := by
  induction l generalizing kept with
  | nil =>
    cases h
    exact .slnil
  | cons x l ih =>
    obtain ⟨b, rest, -, hl, rfl⟩ := filterM_cons_ok h
    cases b with
    | false => exact (ih hl).cons x
    | true => exact (ih hl).cons_cons x

theorem mem_of_filterM {l kept : List α} (h : l.filterM f = .ok kept) (x : α) :
    x ∈ kept ↔ x ∈ l ∧ f x = .ok true := by
  induction l generalizing kept with
  | nil =>
    cases h
    simp
  | cons y l ih =>
    obtain ⟨b, rest, hy, hl, rfl⟩ := filterM_cons_ok h
    have later := ih hl
    by_cases same : x = y
    · subst same
      cases b <;> simp_all
    · cases b <;> simp [same, later]

theorem error_of_filterM {l : List α} {e : Failure} (h : l.filterM f = .error e) :
    ∃ x ∈ l, f x = .error e := by
  induction l with
  | nil => cases h
  | cons y l ih =>
    rw [filterM_cons] at h
    cases hy : f y with
    | error e' =>
      rw [hy] at h
      cases h
      exact ⟨y, List.mem_cons_self, hy⟩
    | ok b =>
      rw [hy] at h
      cases hl : l.filterM f with
      | error e' =>
        rw [hl] at h
        cases h
        obtain ⟨x, mem, failed⟩ := ih hl
        exact ⟨x, List.mem_cons_of_mem _ mem, failed⟩
      | ok rest =>
        rw [hl] at h
        cases h

end

theorem mem_under {Q : PutRequest → Prop} {s : Store} (h : Kept Q s) {path : String}
    {recursive : Bool} {r : Record} :
    r ∈ s.under path recursive ↔
      isUnder path recursive r.name = true ∧ s.latest? r.name = some r := by
  unfold under
  simp only [List.mem_filterMap, List.mem_filter]
  constructor
  · rintro ⟨name, ⟨-, below⟩, hr⟩
    obtain rfl := h.latest_name hr
    exact ⟨below, hr⟩
  · rintro ⟨below, hr⟩
    exact ⟨r.name, ⟨mem_names_of_latest hr, below⟩, hr⟩

theorem names_under {Q : PutRequest → Prop} {s : Store} (h : Kept Q s) (path : String)
    (recursive : Bool) :
    (s.under path recursive).map (·.name) = s.names.filter (isUnder path recursive) := by
  have named : ∀ name ∈ s.names.filter (isUnder path recursive),
      (s.latest? name).map (·.name) = some name := by
    intro name hname
    obtain ⟨r, hr⟩ := h.exists_latest (List.mem_filter.1 hname).1
    rw [hr, Option.map_some, h.latest_name hr]
  rw [under, List.map_filterMap, List.filterMap_congr named, List.filterMap_some]

/-- The longest listing of a store has no more records than the bound says. -/
theorem length_under_le (s : Store) (path : String) (recursive : Bool) :
    (s.under path recursive).length ≤ s.history.size := by
  have found := List.length_filterMap_le s.latest? (s.names.filter (isUnder path recursive))
  have kept := List.length_filter_le (isUnder path recursive) s.names
  have size : s.names.length = s.history.size := List.length_map _
  unfold under
  omega

theorem Kept.withPageSize {Q : PutRequest → Prop} {s : Store} (h : Kept Q s) (size : Nat) :
    Kept Q (s.withPageSize size) := h

/-- In descending order numbered versions stand the other way round. -/
theorem Numbered.newestFirst {versions : List Record} (h : Numbered versions) :
    (versions.mergeSort fun a b => b.version ≤ a.version) = versions.reverse := by
  have sorted : (versions.mergeSort fun a b => b.version ≤ a.version).Pairwise
      fun a b => b.version ≤ a.version := by
    refine (List.pairwise_mergeSort ?_ ?_ versions).imp fun le => of_decide_eq_true le
    · intro a b c hab hbc
      simp only [decide_eq_true_eq] at hab hbc ⊢
      omega
    · intro a b
      simp only [Bool.or_eq_true, decide_eq_true_eq]
      omega
  have reversed : versions.reverse.Pairwise fun a b => b.version ≤ a.version :=
    List.pairwise_reverse.2 (h.ascending.imp fun lt => by omega)
  refine List.Perm.eq_of_pairwise ?_ sorted reversed
    ((List.mergeSort_perm _ _).trans (List.reverse_perm _).symm)
  intro a b ha hb le ge
  refine h.eq_of_version (List.mem_mergeSort.1 ha) (List.mem_reverse.1 hb) ?_
  omega

end Store

namespace Client

/-! ## Pages -/

/-- The client reads this store by these rules, and none of its calls fails. -/
structure Reading (s : Store) (rules : List Rule) (cl : Client) : Prop where
  working : cl.backend.failing = []
  store : cl.backend.store = s
  rules : cl.rules = rules

/-- A new client of a store that was empty and then changed. -/
def holding (changes : List Store.Change) : Client :=
  { backend := { store := ({} : Store).changed changes } }

section
variable {s : Store} {rules : List Rule}

theorem yields_query {α : Type} (c : Call) (f : Store → Except Failure α) :
    Yields (Reading s rules) (query c f) ((f s).mapError (Error.ofFailure c none)) := by
  intro cl hcl
  rw [query_runOn, answer, hcl.working, if_neg List.not_mem_nil, hcl.store]
  exact ⟨rfl, hcl.working, hcl.store, hcl.rules⟩

section
variable {α : Type} {fetch : Nat → ClientM Page} {load : Record → ClientM α}
  {g : Record → Except Error α}

/-- From any place on, the pages of a listing are the rest of it. The fuel runs out behind its end. -/
theorem yields_gather {records : List Record}
    (hf : ∀ start, Yields (Reading s rules) (fetch start) (.ok (s.page records start)))
    (hl : ∀ r ∈ records, Yields (Reading s rules) (load r) (g r)) {fuel : Nat} (start : Nat)
    (enough : records.length < start + fuel) :
    Yields (Reading s rules) (gather fetch load fuel start) ((records.drop start).mapM g) := by
  induction fuel generalizing start with
  | zero =>
    rw [List.drop_eq_nil_of_le (by omega)]
    exact .pure _
  | succ fuel ih =>
    have loaded : Yields (Reading s rules) ((s.page records start).records.mapM load)
        (((records.drop start).take s.pageSize).mapM g) :=
      .traverse fun r hr => hl r (List.mem_of_mem_drop (List.mem_of_mem_take hr))
    rw [gather]
    refine (hf start).bind ?_
    by_cases more : start + s.pageSize < records.length
    · have rest := ih (start + s.pageSize) (by have := s.pageSize_pos; omega)
      rw [← List.take_append_drop s.pageSize (records.drop start), List.mapM_append, List.drop_drop]
      refine loaded.andThen fun page _ => ?_
      simp only [Store.page, more, if_true]
      exact rest.andThen fun _ _ => .pure _
    · have last : (records.drop start).take s.pageSize = records.drop start :=
        List.take_of_length_le (by rw [List.length_drop]; omega)
      rw [last] at loaded
      rw [← bind_pure ((records.drop start).mapM g)]
      refine loaded.andThen fun page _ => ?_
      simp only [Store.page, more, if_false]
      exact .pure page

/-- All pages of a listing are the listing, if there is one. -/
theorem yields_loadAll {listed : Except Error (List Record)}
    (hf : ∀ start, Yields (Reading s rules) (fetch start)
      (listed.map fun records => s.page records start))
    (hl : ∀ records, listed = .ok records → ∀ r ∈ records, Yields (Reading s rules) (load r) (g r))
    (bounded : ∀ records, listed = .ok records → records.length ≤ listingBound s) :
    Yields (Reading s rules) (gatherAll fetch load) (listed >>= fun records => records.mapM g) := by
  refine Yields.get_bind fun cl hcl => ?_
  rw [hcl.store]
  cases listed with
  | ok records =>
    have enough := bounded records rfl
    exact yields_gather hf (hl records rfl) 0 (by omega)
  | error e =>
    rw [gather]
    exact (hf 0).andThen (k := fun _ => .error e) fun _ found => by cases found

theorem yields_gatherAll {records : List Record}
    (hf : ∀ start, Yields (Reading s rules) (fetch start) (.ok (s.page records start)))
    (bounded : records.length ≤ listingBound s) :
    Yields (Reading s rules) (gatherAll fetch pure) (.ok records) := by
  have whole : ((.ok records : Except Error (List Record)) >>= fun records => records.mapM pure) =
      .ok records := by
    show records.mapM pure = pure records
    simpa using List.mapM_pure (m := Except Error) (l := records) (f := id)
  rw [← whole]
  refine yields_loadAll hf (fun _ _ _ _ => .pure _) fun _ same => ?_
  cases same
  exact bounded

end

theorem le_foldl_length (l : List (List Record)) (n : Nat) :
    n ≤ l.foldl (fun n versions => n + versions.length) n ∧
      ∀ versions ∈ l, versions.length ≤ l.foldl (fun n versions => n + versions.length) n := by
  induction l generalizing n with
  | nil => simp
  | cons first rest ih =>
    obtain ⟨le, each⟩ := ih (n + first.length)
    rw [List.foldl_cons]
    refine ⟨by omega, fun versions hv => ?_⟩
    rcases List.mem_cons.1 hv with rfl | hv
    · omega
    · exact each versions hv

theorem length_under_le_bound (s : Store) (path : String) (recursive : Bool) :
    (s.under path recursive).length ≤ listingBound s :=
  Nat.le_trans (s.length_under_le path recursive) (le_foldl_length s.history.values _).1

theorem length_versions_le_bound (s : Store) (name : String) :
    (s.versions name).length ≤ listingBound s := by
  unfold Store.versions
  cases hv : s.history.get? name with
  | none => exact Nat.zero_le _
  | some versions =>
    have listed : versions ∈ s.history.values :=
      List.mem_map.2 ⟨_, NameMap.mem_entries.2 hv, rfl⟩
    exact (le_foldl_length s.history.values _).2 versions listed

end

end Client

end ParamFile
