import Mathlib.Algebra.Order.Floor.Div
import ParamFile.Proofs.Flushing
import ParamFile.Proofs.Matching

/-!
# How many calls a listing takes

A listing of some records takes one call for each page, and one if there are none (`pages`). It ends
early at a record that cannot be loaded, so what counts are the records up to the first of these
(`Client.tried`, `Client.leads_gather`).
-/

namespace ParamFile

namespace Action

variable {σ α β : Type} {W V U : σ → Prop}

/-- From every state of `W` the action ends with `r`, in a state of `V`. -/
def Leads (W V : σ → Prop) (a : Action σ α) (r : Except Error α) : Prop :=
  ∀ s, W s → (a.runOn s).1 = r ∧ V (a.runOn s).2

theorem Leads.bind {a : Action σ α} {f : α → Action σ β} {x : α} {r : Except Error β}
    (ha : Leads W V a (.ok x)) (hf : Leads V U (f x) r) : Leads W U (a >>= f) r := by
  intro s hs
  obtain ⟨h, ht⟩ := ha s hs
  rw [runOn_bind]
  generalize a.runOn s = p at h ht ⊢
  obtain ⟨_, t⟩ := p
  cases h
  exact hf t ht

theorem Leads.bind_error {a : Action σ α} {f : α → Action σ β} {e : Error}
    (ha : Leads W V a (.error e)) : Leads W V (a >>= f) (.error e) := by
  intro s hs
  obtain ⟨h, ht⟩ := ha s hs
  rw [runOn_bind]
  generalize a.runOn s = p at h ht ⊢
  obtain ⟨_, t⟩ := p
  cases h
  exact ⟨rfl, ht⟩

theorem Leads.andThen {a : Action σ α} {f : α → Action σ β} {r : Except Error α}
    {k : α → Except Error β} (ha : Leads W V a r) (hf : ∀ x, Yields V (f x) (k x)) :
    Leads W V (a >>= f) (r >>= k) := by
  cases r with
  | ok x => exact ha.bind (hf x)
  | error e => exact ha.bind_error

theorem Leads.get_bind {f : σ → Action σ α} {r : Except Error α}
    (hf : ∀ s, W s → Leads W V (f s) r) : Leads W V (get >>= f) r := by
  intro s hs
  rw [runOn_bind]
  exact hf s hs s hs

end Action

open ParamFile.Action

/-! ## Pages -/

/-- How many pages of a size hold some records; there is one even if there are none. -/
def pages (size n : Nat) : Nat := max 1 (n ⌈/⌉ size)

theorem pages_of_le {size n : Nat} (pos : 0 < size) (le : n ≤ size) : pages size n = 1 := by
  have few : (n + size - 1) / size < 2 := by
    rw [Nat.div_lt_iff_lt_mul pos]
    omega
  rw [pages, Nat.ceilDiv_eq_add_pred_div]
  omega

theorem pages_add {size n : Nat} (pos : 0 < size) (some : 0 < n) :
    pages size (size + n) = pages size n + 1 := by
  have one : 0 < (n + size - 1) / size := Nat.div_pos (by omega) pos
  have more : (size + n + size - 1) / size = (n + size - 1) / size + 1 := by
    rw [← Nat.add_div_right _ pos]
    congr 1
    omega
  rw [pages, pages, Nat.ceilDiv_eq_add_pred_div, Nat.ceilDiv_eq_add_pred_div, more]
  omega

namespace Client

/-! ## Records that are tried -/

section
variable {α : Type} {g : Record → Except Error α}

/-- The records up to the first that cannot be loaded, with this one. -/
def tried (g : Record → Except Error α) : List Record → List Record
  | [] => []
  | r :: rest => r :: if (g r).isOk then tried g rest else []

theorem length_tried_le (g : Record → Except Error α) (l : List Record) :
    (tried g l).length ≤ l.length := by
  induction l with
  | nil => exact Nat.le_refl 0
  | cons r rest ih =>
    rw [tried, List.length_cons, List.length_cons]
    split
    · omega
    · exact Nat.succ_le_succ (Nat.zero_le _)

theorem length_tried_pos {l : List Record} (ne : l ≠ []) : 0 < (tried g l).length := by
  cases l with
  | nil => exact absurd rfl ne
  | cons r rest => exact Nat.succ_pos _

theorem tried_map (f : Record → Record) (l : List Record) :
    tried g (l.map f) = (tried (fun r => g (f r)) l).map f := by
  induction l with
  | nil => rfl
  | cons r rest ih =>
    rw [List.map_cons, tried, tried, ih, List.map_cons]
    split <;> rfl

theorem tried_append {front : List Record} (loads : ∀ r ∈ front, (g r).isOk = true)
    (back : List Record) : tried g (front ++ back) = front ++ tried g back := by
  induction front with
  | nil => rfl
  | cons r front ih =>
    have later := ih fun q hq => loads q (List.mem_cons_of_mem _ hq)
    rw [List.cons_append, tried, if_pos (loads r List.mem_cons_self), later]
    rfl

theorem tried_of_loads {l : List Record} (loads : ∀ r ∈ l, (g r).isOk = true) : tried g l = l := by
  have all := tried_append loads []
  rwa [List.append_nil, tried, List.append_nil] at all

theorem tried_of_first {front : List Record} (loads : ∀ r ∈ front, (g r).isOk = true) {r : Record}
    {e : Error} (failed : g r = .error e) (rest : List Record) :
    tried g (front ++ r :: rest) = front ++ [r] := by
  have stops : (g r).isOk = false := by
    rw [failed]
    rfl
  rw [tried_append loads, tried, if_neg (by simp [stops])]

/-- What comes behind a record that cannot be loaded is not tried. -/
theorem tried_append_of_error {front : List Record} {e : Error} (failed : front.mapM g = .error e)
    (back : List Record) : tried g (front ++ back) = tried g front := by
  obtain ⟨before, r, behind, rfl, loads, here⟩ := mapM_eq_error.1 failed
  rw [List.append_assoc, List.cons_append, tried_of_first loads here, tried_of_first loads here]

end

/-! ## Counting calls -/

/-- The client reads a store by some rules, and has made this many calls of one kind. -/
structure Counting (s : Store) (rules : List Rule) (call : Call) (k : Nat) (c : Client) : Prop where
  reading : Reading s rules c
  count : c.backend.count call = k

section
variable {s : Store} {rules : List Rule} {call : Call} {k : Nat}

/-- What makes no such call answers as it does, and is not counted. -/
theorem yields_counting {α : Type} {a : ClientM α} {r : Except Error α}
    (answers : Yields (Reading s rules) a r) (keeps : Keeps (fun c => c.backend.count call) a) :
    Yields (Counting s rules call k) a r := by
  intro c counting
  obtain ⟨answer, reading⟩ := answers c counting.reading
  exact ⟨answer, reading, (keeps c).trans counting.count⟩

theorem leads_query {α : Type} (f : Store → Except Failure α) :
    Leads (Counting s rules call k) (Counting s rules call (k + 1)) (query call f)
      ((f s).mapError (Error.ofFailure call none)) := by
  intro c counting
  obtain ⟨answer, reading⟩ := yields_query call f c counting.reading
  refine ⟨answer, reading, ?_⟩
  rw [query_runOn, ← counting.count]
  exact List.count_cons_self

theorem keeps_count_query {α : Type} {d : Call} (ne : d ≠ call) (f : Store → Except Failure α) :
    Keeps (fun c => c.backend.count call) (query d f) := by
  intro c
  rw [query_runOn]
  exact List.count_cons_of_ne ne

/-- Loading a record does to the client no more than encrypting does. -/
theorem keeps_loadRecord {γ : Type} {f : Client → γ}
    (kept : ∀ plaintext keyId, Keeps f (encrypt plaintext keyId)) (reencrypt : Bool) (r : Record) :
    Keeps f (loadRecord reencrypt r) := by
  unfold loadRecord
  split
  · exact .pure _
  · refine Keeps.bind (fun _ => rfl) fun _ => ?_
    split
    · exact .throw _
    · exact (kept _ _).bind fun _ => .pure _

theorem keeps_count_loadRecord (ne : .encrypt ≠ call) (reencrypt : Bool) (r : Record) :
    Keeps (fun c => c.backend.count call) (loadRecord reencrypt r) :=
  keeps_loadRecord (fun _ _ => (keeps_count_query ne _).bind fun _ =>
    Keeps.bind (fun _ => rfl) fun _ => .pure _) reencrypt r

/-! ## Listings -/

variable {α : Type} {fetch : Nat → ClientM Page} {load : Record → ClientM α}
  {g : Record → Except Error α}

/-- From any place on, there is one call for each page that is tried. -/
theorem leads_gather {records : List Record}
    (hf : ∀ start k, Leads (Counting s rules call k) (Counting s rules call (k + 1)) (fetch start)
      (.ok (s.page records start)))
    (hl : ∀ r ∈ records, ∀ k, Yields (Counting s rules call k) (load r) (g r)) {fuel start : Nat}
    (within : start ≤ records.length) (enough : records.length < start + fuel) (k : Nat) :
    Leads (Counting s rules call k)
      (Counting s rules call (k + pages s.pageSize (tried g (records.drop start)).length))
      (gather fetch load fuel start) ((records.drop start).mapM g) := by
  induction fuel generalizing start k with
  | zero => omega
  | succ fuel ih =>
    have pos := s.pageSize_pos
    have split := List.take_append_drop s.pageSize (records.drop start)
    have loaded : Yields (Counting s rules call (k + 1)) ((s.page records start).records.mapM load)
        (((records.drop start).take s.pageSize).mapM g) :=
      .traverse fun r hr => hl r (List.mem_of_mem_drop (List.mem_of_mem_take hr)) _
    rw [gather]
    refine (hf start k).bind ?_
    rw [← split, List.mapM_append]
    cases here : ((records.drop start).take s.pageSize).mapM g with
    | error e =>
      -- the page has the last record that is tried
      rw [here] at loaded
      have tried_le := length_tried_le g ((records.drop start).take s.pageSize)
      rw [tried_append_of_error here, pages_of_le pos (by rw [List.length_take] at tried_le; omega)]
      exact Leads.bind_error loaded
    | ok xs =>
      rw [here] at loaded
      rw [tried_append (isOk_of_mapM here)]
      refine Leads.bind loaded ?_
      by_cases more : start + s.pageSize < records.length
      · -- a full page with records behind it, which take one page less
        have full : ((records.drop start).take s.pageSize).length = s.pageSize := by
          rw [List.length_take, List.length_drop]
          omega
        have ne : records.drop (start + s.pageSize) ≠ [] := by
          rw [ne_eq, List.drop_eq_nil_iff]
          omega
        have rest := @ih (start + s.pageSize) (Nat.le_of_lt more) (by omega) (k + 1)
        have calls : k + 1 + pages s.pageSize (tried g (records.drop (start + s.pageSize))).length =
            k + pages s.pageSize (s.pageSize +
              (tried g (records.drop (start + s.pageSize))).length) := by
          rw [pages_add pos (length_tried_pos ne)]
          omega
        rw [List.length_append, full, List.drop_drop, ← calls]
        simp only [Store.page, more, if_true]
        exact rest.andThen fun _ => .pure _
      · have none : (records.drop start).drop s.pageSize = [] := by
          rw [List.drop_drop, List.drop_eq_nil_iff]
          omega
        have few : ((records.drop start).take s.pageSize).length ≤ s.pageSize := by
          rw [List.length_take]
          omega
        rw [none, tried, List.append_nil, pages_of_le pos few, List.mapM_nil]
        simp only [Store.page, more, if_false]
        show Leads _ _ _ (.ok (xs ++ []))
        rw [List.append_nil]
        exact Yields.pure xs

/-- All pages of a listing; its records are no more than the bound says. -/
theorem leads_gatherAll {records : List Record}
    (hf : ∀ start k, Leads (Counting s rules call k) (Counting s rules call (k + 1)) (fetch start)
      (.ok (s.page records start)))
    (hl : ∀ r ∈ records, ∀ k, Yields (Counting s rules call k) (load r) (g r))
    (bounded : records.length ≤ listingBound s) (k : Nat) :
    Leads (Counting s rules call k)
      (Counting s rules call (k + pages s.pageSize (tried g records).length))
      (gatherAll fetch load) (records.mapM g) := by
  refine Leads.get_bind fun c counting => ?_
  rw [counting.reading.store]
  exact leads_gather hf hl (Nat.zero_le _) (by omega) k

/-- Loading that always works tries all records. -/
theorem leads_gatherAll_ok {records : List Record} {f : Record → α}
    (hf : ∀ start k, Leads (Counting s rules call k) (Counting s rules call (k + 1)) (fetch start)
      (.ok (s.page records start)))
    (bounded : records.length ≤ listingBound s) (k : Nat) :
    Leads (Counting s rules call k) (Counting s rules call (k + pages s.pageSize records.length))
      (gatherAll fetch fun r => pure (f r)) (.ok (records.map f)) := by
  have all := leads_gatherAll (g := fun r => .ok (f r)) hf (fun r _ k => .pure (f r)) bounded k
  have answers : records.mapM (fun r => (.ok (f r) : Except Error α)) = .ok (records.map f) :=
    List.mapM_pure
  rw [answers, tried_of_loads fun r _ => rfl] at all
  exact all

/-- What follows an action that counts, and makes no such calls, does not change the count. -/
theorem count_bind {β : Type} {a : ClientM α} {f : α → ClientM β} {r : Except Error α} {k' : Nat}
    (ha : Leads (Counting s rules call k) (Counting s rules call k') a r)
    (hf : ∀ x, Keeps (fun c => c.backend.count call) (f x)) {c : Client}
    (counting : Counting s rules call k c) : ((a >>= f).runOn c).2.backend.count call = k' := by
  obtain ⟨answer, after⟩ := ha c counting
  rw [runOn_bind]
  generalize a.runOn c = run at answer after ⊢
  obtain ⟨_ | x, t⟩ := run
  · exact after.count
  · exact (hf x t).trans after.count

/-! ## Reading by path -/

section
variable {q : Store.Query}

theorem pathPage_eq (s : Store) (q : Store.Query) (start : Nat) :
    s.pathPage q start = (s.selected q.path q.recursive q.filters).map fun records =>
      s.page (records.map (Store.shown q.decrypt)) start := by
  unfold Store.pathPage
  rw [Store.listing_eq]
  cases s.selected q.path q.recursive q.filters <;> rfl

section
variable {records : List Record} (selected : s.selected q.path q.recursive q.filters = .ok records)
include selected

theorem leads_fetchPath (start k : Nat) :
    Leads (Counting s rules .path k) (Counting s rules .path (k + 1)) (fetchPath q start)
      (.ok (s.page (records.map (Store.shown q.decrypt)) start)) := by
  have page : (s.pathPage q start).mapError (Error.ofFailure .path none) =
      .ok (s.page (records.map (Store.shown q.decrypt)) start) := by
    rw [pathPage_eq, selected]
    rfl
  rw [← page]
  exact leads_query _

theorem length_selected_le : (records.map (Store.shown q.decrypt)).length ≤ listingBound s := by
  have some := (Store.filterM_sublist selected).length_le
  have all := length_under_le_bound s q.path q.recursive
  rw [List.length_map]
  omega

theorem leads_gatherPath (hl : ∀ r k, Yields (Counting s rules .path k) (load r) (g r)) (k : Nat) :
    let shown r := g (Store.shown q.decrypt r)
    Leads (Counting s rules .path k)
      (Counting s rules .path (k + pages s.pageSize (tried shown records).length))
      (gatherAll (fetchPath q) load) (records.mapM shown) := by
  have all := leads_gatherAll (leads_fetchPath selected) (fun r _ k => hl r k)
    (length_selected_le selected) k
  rw [tried_map, List.length_map, List.mapM_map] at all
  exact all

theorem leads_gatherNames (k : Nat) :
    Leads (Counting s rules .path k) (Counting s rules .path (k + pages s.pageSize records.length))
      (gatherAll (fetchPath q) fun r => pure r.name) (.ok (records.map (·.name))) := by
  have all : Leads (Counting s rules .path k) _
      (gatherAll (fetchPath q) fun r => pure r.name) _ :=
    leads_gatherAll_ok (leads_fetchPath selected) (length_selected_le selected) k
  have names : (records.map (Store.shown q.decrypt)).map (·.name) = records.map (·.name) := by
    rw [List.map_map]
    exact List.map_congr_left fun r _ => Store.name_shown q.decrypt r
  rwa [names, List.length_map] at all

end

theorem leads_gatherPath_failed {f : Failure}
    (failed : s.selected q.path q.recursive q.filters = .error f) (k : Nat) :
    Leads (Counting s rules .path k) (Counting s rules .path (k + 1)) (gatherAll (fetchPath q) load)
      (.error (Error.ofFailure .path none f)) := by
  refine Leads.get_bind fun c _ => ?_
  have page : (s.pathPage q 0).mapError (Error.ofFailure .path none) =
      .error (Error.ofFailure .path none f) := by
    rw [pathPage_eq, failed]
    rfl
  have asked : Leads (Counting s rules .path k) (Counting s rules .path (k + 1)) (fetchPath q 0)
      (.error (Error.ofFailure .path none f)) := by
    rw [← page]
    exact leads_query _
  rw [gather]
  exact asked.bind_error

end

/-! ## Reading by history -/

theorem keeps_count_gatherAll {α : Type} {load : Record → ClientM α}
    (hf : ∀ start, Keeps (fun c => c.backend.count call) (fetch start))
    (hl : ∀ r, Keeps (fun c => c.backend.count call) (load r)) :
    Keeps (fun c => c.backend.count call) (gatherAll fetch load) := by
  intro c
  exact keeps_gather hf hl _ 0 c

theorem keeps_count_getVersions (history : .history ≠ call) (encrypt : .encrypt ≠ call)
    (name : String) (reencrypt : Bool) (limit : Option Nat) :
    Keeps (fun c => c.backend.count call) (getVersions name reencrypt limit) := by
  refine Keeps.bind ?_ fun records => Keeps.mapM (keeps_count_loadRecord encrypt reencrypt) _
  exact keeps_count_gatherAll (fun start => keeps_count_query history _) fun _ => .pure _

theorem keeps_count_getFull (history : .history ≠ call) (encrypt : .encrypt ≠ call)
    (reencrypt : Bool) (names : List String) :
    Keeps (fun c => c.backend.count call) (getFull reencrypt names) := by
  induction names with
  | nil => exact .pure _
  | cons name rest ih =>
    rw [getFull]
    refine (keeps_count_getVersions history encrypt name reencrypt _).bind fun versions => ?_
    refine ih.bind fun answer => ?_
    obtain ⟨found, unknown⟩ := answer
    dsimp only
    split <;> exact .pure _

theorem leads_getVersions {Q : PutRequest → Prop} (kept : Store.Kept Q s) (name : String)
    (reencrypt : Bool) (limit : Option Nat) (k : Nat) :
    let newest := (s.versions name).reverse
    Leads (Counting s rules .history k)
      (Counting s rules .history (k + pages s.pageSize (s.versions name).length))
      (getVersions name reencrypt limit)
      ((limit.elim newest newest.take).mapM (readRecord rules reencrypt)) := by
  intro newest
  have listed : Leads (Counting s rules .history k)
      (Counting s rules .history (k + pages s.pageSize (s.versions name).length))
      (gatherAll (fetchHistory name reencrypt) pure)
      (.ok ((s.versions name).map (Store.shown reencrypt))) := by
    let history := (s.versions name).map (Store.shown reencrypt)
    have fetched : ∀ start k, Leads (Counting s rules .history k) (Counting s rules .history (k + 1))
        (fetchHistory name reencrypt start) (.ok (s.page history start)) :=
      fun start k => leads_query _
    have length : history.length = (s.versions name).length := List.length_map _
    have bounded := length_versions_le_bound s name
    have all := leads_gatherAll_ok (f := id) fetched (by omega) k
    rw [length, List.map_id] at all
    exact all
  exact listed.bind (yields_counting (yields_loadVersions kept name reencrypt limit)
    (Keeps.mapM (keeps_count_loadRecord (by decide) reencrypt) _))

end

end Client

end ParamFile
