import ParamFile.Proofs.Flushing
import ParamFile.Proofs.Matching

/-!
# Deleting is exact

Deleting a path deletes the names that its listing finds (`Client.deletePath_eq`), so it takes out those
that match (`Store.Matches`), and whatever is read under the path behind that finds none
(`Client.getPath_of_none`). Together with what deleting names does (`Client.deleteNames_eq`) this is
`Client.deletion_exact`.
-/

namespace ParamFile

open ParamFile.Action

namespace Client

section
variable {Q : PutRequest → Prop} {c : Client} {path : String} {recursive : Bool}
  {filters : List Filter}

theorem getPath_of_none (kept : Store.Kept Q c.backend.store) (working : c.backend.failing = [])
    {o : PathOptions} (allowed : (o.namesOnly && o.full) = false)
    (none : c.backend.store.selected path o.recursive o.filters = .ok []) :
    ((getPath path o).runOn c).1 = .ok (if o.namesOnly then .names [] else .parameters []) := by
  have reading : Reading c.backend.store c.rules c := ⟨working, rfl, rfl⟩
  cases listed : o.namesOnly with
  | true =>
    have pages : o.full = false := by rwa [listed, Bool.true_and] at allowed
    have read := (yields_getPath_listed path listed pages c reading).1
    rw [selectedNames, none] at read
    exact read
  | false =>
    have read := (yields_getPath kept path listed c reading).1
    rw [readPath, none] at read
    exact read

/-- Deleting a path deletes the names that are selected under it. -/
theorem deletePath_eq (working : c.backend.failing = []) {records : List Record}
    (selected : c.backend.store.selected path recursive filters = .ok records) :
    ∃ u : Client, u.unlogged = c.unlogged ∧
      (deletePath path recursive filters).runOn c = (deleteNames (records.map (·.name))).runOn u := by
  have listing : Yields (Reading c.backend.store c.rules)
      (getPath path { namesOnly := true, recursive, filters })
      ((selectedNames c.backend.store path recursive filters).map .names) :=
    yields_getPath_listed path rfl rfl
  rw [selectedNames, selected] at listing
  obtain ⟨u, found, -⟩ := listing.runOn ⟨working, rfl, rfl⟩
  have same := keeps_unlogged_getPath path recursive filters c
  rw [found] at same
  refine ⟨u, same, ?_⟩
  rw [deletePath, runOn_bind, found]
  rfl

theorem selected_of_lost {s t : Store} (kept : Store.Kept Q t)
    (supported : ∀ f ∈ filters, f.Supported) {gone : String → Bool} (lost : s.Loses t gone)
    (all : ∀ name, s.Matches path recursive filters name → gone name = true) :
    t.selected path recursive filters = .ok [] := by
  obtain ⟨records, selected⟩ := t.exists_selected path recursive supported
  have listed := (Store.names_of_selected kept selected).2
  have none : records.map (·.name) = [] := by
    refine List.eq_nil_iff_forall_not_mem.2 fun name mem => ?_
    obtain ⟨below, r, latest, pass⟩ := (listed name).1 mem
    have left : gone name = false := (lost.mem_names.1 (Store.mem_names_of_latest latest)).2
    have before : s.latest? name = some r := by
      have history := lost.history name
      rw [left] at history
      rw [Store.latest?, history] at latest
      exact latest
    have matched := all name ⟨below, r, before, pass⟩
    rw [left] at matched
    cases matched
  rw [selected, List.map_eq_nil_iff.1 none]

end

/-- Deleting names takes out those that are listed, in calls that list them one behind the other and are all
granted, and answers how many of them were stored. -/
theorem deleteNames_exact {c : Client} (granted : Call.delete ∉ c.backend.failing)
    (names : List String) :
    let run := (deleteNames names).runOn c
    run.1 = .ok (c.backend.store.names.filter fun name => names.contains name).length ∧
      (∀ name, run.2.backend.store.history.get? name =
        if name ∈ names then none else c.backend.store.history.get? name) ∧
      ∃ calls : List (List String), calls.flatten = names ∧
        (∀ call ∈ calls, call.length ≤ greatestBatch) ∧
        run.2.backend.store.deletes = calls.reverse ++ c.backend.store.deletes ∧
        run.2.backend.count .delete = c.backend.count .delete + calls.length := by
  intro run
  have eq : run = _ := deleteNames_eq granted names
  rw [eq]
  refine ⟨rfl, fun name => ?_, batches c.batchSize names, flatten_batches _ _, fun call mem => ?_, rfl,
    ?_⟩
  · show (Store.remove (batches c.batchSize names).flatten _).2.get? name = _
    rw [flatten_batches]
    exact Store.get?_remove names c.backend.store.history name
  · exact Nat.le_trans (length_le_of_mem_batches c.batchSize_pos mem) c.batchSize_le
  · simp only [Backend.count, without, List.count_append, List.count_replicate_self]
    exact Nat.add_comm _ _

/-- Deleting names takes out those that are listed, in calls that none refuses, and answers how many of
them were stored. Deleting a path takes out the names that match, answers how many these are, and then
nothing is read there. The sizes of batches and pages make no difference. -/
theorem deletion_exact {s₀ : Store} (empty : s₀.history = .empty) (changes : List Store.Change)
    (pageSize : Nat) {c : Client} (store : c.backend.store = (s₀.changed changes).withPageSize pageSize)
    (working : c.backend.failing = []) (batchSize : Nat) :
    let s := c.backend.store
    (∀ names : List String,
      let run := (deleteNames names).runOn (c.withBatchSize batchSize)
      run.1 = .ok (s.names.filter fun name => names.contains name).length ∧
        (∀ name, run.2.backend.store.history.get? name =
          if name ∈ names then none else s.history.get? name) ∧
        ∃ calls : List (List String), calls.flatten = names ∧
          (∀ call ∈ calls, call.length ≤ greatestBatch) ∧
          run.2.backend.store.deletes = calls.reverse ++ s.deletes ∧
          run.2.backend.count .delete = c.backend.count .delete + calls.length) ∧
    ∀ path recursive filters, (∀ f ∈ filters, Filter.Supported f) →
      let run := (deletePath path recursive filters).runOn (c.withBatchSize batchSize)
      ∃ found : List String, found.Nodup ∧
        (∀ name, name ∈ found ↔ s.Matches path recursive filters name) ∧
        run.1 = .ok found.length ∧
        (∀ name, run.2.backend.store.history.get? name =
          if name ∈ found then none else s.history.get? name) ∧
        ∀ o : PathOptions, o.recursive = recursive → o.filters = filters →
          (o.namesOnly && o.full) = false →
          ((getPath path o).runOn run.2).1 =
            .ok (if o.namesOnly then .names [] else .parameters []) := by
  intro s
  have kept : Store.Kept (fun _ => True) s := by
    show Store.Kept _ c.backend.store
    rw [store]
    exact (Store.kept_changed empty fun _ _ => trivial).withPageSize pageSize
  have granted : Call.delete ∉ c.backend.failing := by
    rw [working]
    exact List.not_mem_nil
  refine ⟨fun names => deleteNames_exact (c := c.withBatchSize batchSize) granted names,
    fun path recursive filters supported => ?_⟩
  obtain ⟨records, selected⟩ := s.exists_selected path recursive supported
  obtain ⟨ascending, listed⟩ := Store.names_of_selected kept selected
  obtain ⟨u, same, eq⟩ := deletePath_eq (c := c.withBatchSize batchSize) working selected
  -- listing was only logged, so the names are deleted from the store as it was
  have store' : u.backend.store = s := congrArg (·.backend.store) same
  have failing : u.backend.failing = [] := (congrArg (·.backend.failing) same).trans working
  obtain ⟨answer, left, -⟩ := deleteNames_exact (c := u) (by rw [failing]; exact List.not_mem_nil)
    (records.map (·.name))
  rw [store'] at answer left
  have nodup : (records.map (·.name)).Nodup := ascending.imp fun lt => String.ne_of_lt lt
  have number : (s.names.filter fun name => (records.map (·.name)).contains name).length =
      (records.map (·.name)).length := by
    refine Store.length_listed_of_stored nodup fun name mem => ?_
    obtain ⟨-, r, latest, -⟩ := (listed name).1 mem
    exact Store.mem_names_of_latest latest
  rw [number] at answer
  obtain ⟨n, t, ran, drops⟩ := deleteNames_runOn failing (records.map (·.name))
  have lost := drops.store
  rw [store'] at lost
  rw [eq]
  refine ⟨records.map (·.name), nodup, listed, answer, left, fun o deep only allowed => ?_⟩
  subst deep only
  rw [ran]
  refine getPath_of_none (lost.kept kept) (drops.failing.trans failing) allowed ?_
  refine selected_of_lost (lost.kept kept) supported lost fun name matched => ?_
  exact List.contains_iff_mem.2 ((listed name).2 matched)

/-- Names with duplicates, more of them than a call can list, and two that are not stored. -/
def scattered : List String :=
  ["/a", "/x", "/a", "/b/c", "/x", "/a", "/y", "/a", "/a", "/a", "/a", "/b/c"]

/-- Two versions of a name, and a name that lies deeper. -/
def nested : List Store.Change := [
  .put { name := "/a", kind := .string, value := "1" },
  .put { name := "/a", kind := .string, value := "2", overwrite := true },
  .put { name := "/b/c", kind := .secureString, value := "3", keyId := some "key" },
  .put { name := "/d", kind := .string, value := "4" }]

def secrets : Filter := { key := "Type", values := [Kind.secureString.text] }

/-- Pages of one record and batches of two names. Two of the listed names are stored, and of the path only
the secret value goes. -/
theorem deletion_exact_scattered :
    let c : Client := { backend := { store := (({} : Store).changed nested).withPageSize 0 } }
    ((deleteNames scattered).runOn (c.withBatchSize 2)).1 = .ok 2 ∧
      (let run := (deletePath "/" true [secrets]).runOn (c.withBatchSize 2)
      run.2.backend.store.history.get? "/b/c" = none ∧
        ((getPath "/" { filters := [secrets], namesOnly := true }).runOn run.2).1 =
          .ok (.names [])) := by
  intro c
  have supported : ∀ f ∈ [secrets], Filter.Supported f := by
    intro f mem
    obtain rfl := List.mem_singleton.1 mem
    exact ⟨by decide, by decide⟩
  have empty : ({} : Store).history = .empty := rfl
  obtain ⟨byName, byPath⟩ := deletion_exact empty nested 0 (c := c) rfl rfl 2
  obtain ⟨found, -, listed, -, left, none⟩ := byPath "/" true [secrets] supported
  have matched : "/b/c" ∈ found := by
    refine (listed "/b/c").2 ⟨⟨['b', '/', 'c'], by decide, .inl rfl⟩, _, rfl, fun f mem => ?_⟩
    obtain rfl := List.mem_singleton.1 mem
    exact ⟨_, .kind, .inl ⟨.inl rfl, by decide⟩⟩
  refine ⟨(byName scattered).1.trans (by decide +kernel), ?_, none _ rfl rfl rfl⟩
  rw [left, if_pos matched]

end Client

end ParamFile
