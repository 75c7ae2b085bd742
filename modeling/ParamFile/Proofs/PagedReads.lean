import Mathlib.Data.List.Sort
import ParamFile.Proofs.Calls
import ParamFile.Proofs.Loaded

/-!
# Reading page by page

Paged readings lose and repeat nothing (`Client.paged_reads`). A listing under a path takes a call for
each page of the names that match (`count_getPath_listed`), unless its parameters are read from the
pages and one of them is a secret value that cannot be encrypted again (`Client.Stops`,
`count_getPath_direct`): there it ends. The pages of a history are all read before any version is
loaded (`Client.leads_getVersions`).
-/

namespace ParamFile

open ParamFile.Action

namespace Client

/-! ## Secret values without a key -/

/-- A secret value for which the rules choose no key. -/
def Keyless (rules : List Rule) (r : Record) : Prop :=
  r.kind.isSecure = true ∧ chosenKey rules r.name r.keyId = none

/-- The latest version of a name is to be encrypted again, and there is no key for it. -/
def Stops (s : Store) (rules : List Rule) (reencrypt : Bool) (name : String) : Prop :=
  reencrypt = true ∧ ∃ r, s.latest? name = some r ∧ Keyless rules r

section
variable {s : Store} {rules : List Rule} {reencrypt : Bool} {r : Record}

theorem readRecord_eq_error {e : Error} :
    readRecord rules reencrypt r = .error e ↔
      (reencrypt = true ∧ Keyless rules r) ∧ e = .noReencryptionKey r.name := by
  unfold readRecord loaded Keyless
  cases reencrypt with
  | false => simp
  | true =>
    have shown : Store.shown true r = r := by simp [Store.shown]
    rw [shown]
    cases hk : r.kind.isSecure with
    | false => simp
    | true =>
      cases chosenKey rules r.name r.keyId with
      | none => simp [eq_comm]
      | some key => simp

theorem isOk_readRecord :
    (readRecord rules reencrypt r).isOk = true ↔ ¬ (reencrypt = true ∧ Keyless rules r) := by
  cases read : readRecord rules reencrypt r with
  | error e => exact iff_of_false (fun ok => by cases ok) (not_not.2 (readRecord_eq_error.1 read).1)
  | ok p =>
    refine iff_of_true rfl fun keyless => ?_
    have failed := readRecord_eq_error.2 ⟨keyless, rfl⟩
    rw [read] at failed
    cases failed

theorem version_of_readRecord {p : Parameter} (read : readRecord rules reencrypt r = .ok p) :
    p.metadata.version = some r.version := by
  have shown : (Store.shown reencrypt r).version = r.version := by
    unfold Store.shown
    split <;> rfl
  unfold readRecord loaded at read
  split at read
  · split at read
    · cases read
    · cases read
      exact congrArg some shown
  · cases read
    exact congrArg some shown

theorem versions_of_mapM {records : List Record} {ps : List Parameter}
    (read : records.mapM (readRecord rules reencrypt) = .ok ps) :
    ps.map (·.metadata.version) = records.map fun r => some r.version := by
  have each := mapM_ok.1 read
  clear read
  induction each with
  | nil => rfl
  | cons read _ ih => rw [List.map_cons, List.map_cons, version_of_readRecord read, ih]

theorem stops_iff (latest : s.latest? r.name = some r) :
    Stops s rules reencrypt r.name ↔ reencrypt = true ∧ Keyless rules r := by
  unfold Stops
  simp [latest]

end

/-! ## Paths -/

section
variable {path : String} {o : PathOptions}

theorem getPath_refused (both : (o.namesOnly && o.full) = true) :
    getPath path o = throw (.invalidOptions .namesOnlyAndFull) := by
  unfold getPath
  rw [both]
  rfl

theorem getPath_of_listed (allowed : (o.namesOnly && o.full) = false)
    (listed : (o.namesOnly || o.full) = true) :
    getPath path o =
      gatherAll (fetchPath ⟨path, o.recursive, o.reencrypt && !o.namesOnly, o.filters⟩)
          (fun r => pure r.name) >>= fun names =>
        if o.namesOnly then pure (.names names)
        else .parameters <$> getNames names { full := true, reencrypt := o.reencrypt } := by
  unfold getPath
  simp only [allowed, listed, Bool.false_eq_true, if_false, if_true]

theorem getPath_of_direct (listed : (o.namesOnly || o.full) = false) :
    getPath path o =
      .parameters <$> gatherAll (fetchPath ⟨path, o.recursive, o.reencrypt, o.filters⟩)
        (loadRecord o.reencrypt) := by
  obtain ⟨names, full⟩ := Bool.or_eq_false_iff.1 listed
  unfold getPath
  simp only [names, full, Bool.and_false, Bool.or_false, Bool.not_false, Bool.and_true,
    Bool.false_eq_true, if_false]

theorem keeps_count_getNames (names : List String) (reencrypt : Bool) :
    Keeps (fun c => c.backend.count .path) (getNames names { full := true, reencrypt }) := by
  refine (keeps_count_getFull (by decide) (by decide) reencrypt names).bind fun answer => ?_
  obtain ⟨found, unknown⟩ := answer
  dsimp only
  split
  · exact .pure _
  · exact .throw _

section
variable {s : Store} {k : Nat} {c : Client} (counting : Counting s c.rules .path k c)
include counting

/-- What follows the pages makes no more calls. -/
theorem count_getPath_of_listed (allowed : (o.namesOnly && o.full) = false)
    (listed : (o.namesOnly || o.full) = true) {r : Except Error (List String)} {k' : Nat}
    (listing : Leads (Counting s c.rules .path k) (Counting s c.rules .path k')
      (gatherAll (fetchPath ⟨path, o.recursive, o.reencrypt && !o.namesOnly, o.filters⟩)
        fun r => pure r.name) r) :
    ((getPath path o).runOn c).2.backend.count .path = k' := by
  rw [getPath_of_listed allowed listed]
  refine count_bind listing (fun names => ?_) counting
  split
  · exact .pure _
  · rw [map_eq_pure_bind]
    exact (keeps_count_getNames names o.reencrypt).bind fun _ => .pure _

theorem count_getPath_of_direct (direct : (o.namesOnly || o.full) = false)
    {r : Except Error (List Parameter)} {k' : Nat}
    (loading : Leads (Counting s c.rules .path k) (Counting s c.rules .path k')
      (gatherAll (fetchPath ⟨path, o.recursive, o.reencrypt, o.filters⟩) (loadRecord o.reencrypt)) r) :
    ((getPath path o).runOn c).2.backend.count .path = k' := by
  rw [getPath_of_direct direct, map_eq_pure_bind]
  exact count_bind loading (fun _ => .pure _) counting

theorem count_getPath_failed (allowed : (o.namesOnly && o.full) = false) {f : Failure}
    (failed : s.selected path o.recursive o.filters = .error f) :
    ((getPath path o).runOn c).2.backend.count .path = k + 1 := by
  cases listed : o.namesOnly || o.full with
  | true => exact count_getPath_of_listed counting allowed listed (leads_gatherPath_failed failed k)
  | false => exact count_getPath_of_direct counting listed (leads_gatherPath_failed failed k)

section
variable {records : List Record} (selected : s.selected path o.recursive o.filters = .ok records)
include selected

theorem count_getPath_listed (allowed : (o.namesOnly && o.full) = false)
    (listed : (o.namesOnly || o.full) = true) :
    ((getPath path o).runOn c).2.backend.count .path = k + pages s.pageSize records.length :=
  count_getPath_of_listed counting allowed listed (leads_gatherNames selected k)

/-- Parameters are loaded up to the first that cannot be. -/
theorem count_getPath_direct (direct : (o.namesOnly || o.full) = false) :
    ((getPath path o).runOn c).2.backend.count .path =
      k + pages s.pageSize (tried (readRecord c.rules o.reencrypt) records).length := by
  have loads : ∀ r k, Yields (Counting s c.rules .path k) (loadRecord o.reencrypt r)
      (loaded c.rules o.reencrypt r) := fun r k =>
    yields_counting (yields_loadRecord o.reencrypt r) (keeps_count_loadRecord (by decide) _ r)
  have loading : Leads (Counting s c.rules .path k)
      (Counting s c.rules .path
        (k + pages s.pageSize (tried (readRecord c.rules o.reencrypt) records).length))
      (gatherAll (fetchPath ⟨path, o.recursive, o.reencrypt, o.filters⟩) (loadRecord o.reencrypt))
      (records.mapM (readRecord c.rules o.reencrypt)) :=
    leads_gatherPath (q := ⟨path, o.recursive, o.reencrypt, o.filters⟩) selected loads k
  exact count_getPath_of_direct counting direct loading

end

end

/-- Under a path there is a call for each page of the names that match, up to the first of these that
stops the reading. -/
theorem getPath_paged {Q : PutRequest → Prop} {s : Store} (kept : Store.Kept Q s) {c : Client}
    (reading : Reading s c.rules c) (path : String) (o : PathOptions)
    (allowed : (o.namesOnly && o.full) = false) :
    let run := (getPath path o).runOn c
    let before := c.backend.count .path
    ∃ found : List String, found.Pairwise (· < ·) ∧
      (∀ name, name ∈ found ↔ s.Matches path o.recursive o.filters name) ∧
      (o.namesOnly = true ∨ o.full = true ∨
          (∀ name ∈ found, ¬ Stops s c.rules o.reencrypt name) →
        run.2.backend.count .path = before + pages s.pageSize found.length) ∧
      (o.namesOnly = false → o.full = false → ∀ front name rest, found = front ++ name :: rest →
        (∀ other ∈ front, ¬ Stops s c.rules o.reencrypt other) →
        Stops s c.rules o.reencrypt name →
        run.1 = .error (.noReencryptionKey name) ∧
          run.2.backend.count .path = before + pages s.pageSize (front.length + 1)) ∧
      (o.namesOnly = true → (∀ f ∈ o.filters, Filter.Supported f) → run.1 = .ok (.names found)) := by
  intro run before
  have counting : Counting s c.rules .path before c := ⟨reading, rfl⟩
  cases selected : s.selected path o.recursive o.filters with
  | error f =>
    -- an unsupported filter is reported by the first call, and no record passes it
    refine ⟨[], .nil, fun name => ?_, fun _ => ?_, fun _ _ front name rest eq => ?_, fun _ known => ?_⟩
    · exact iff_of_false List.not_mem_nil (Store.not_matches_of_selected selected name)
    · rw [List.length_nil, pages_of_le s.pageSize_pos (Nat.zero_le _)]
      exact count_getPath_failed counting allowed selected
    · simp at eq
    · obtain ⟨records, ok⟩ := s.exists_selected path o.recursive known
      rw [selected] at ok
      cases ok
  | ok records =>
    obtain ⟨ascending, listed⟩ := Store.names_of_selected kept selected
    have latest := Store.latest_of_selected kept selected
    have loads : ∀ r ∈ records, ¬ Stops s c.rules o.reencrypt r.name →
        (readRecord c.rules o.reencrypt r).isOk = true := fun r mem goes =>
      isOk_readRecord.2 fun keyless => goes ((stops_iff (latest r mem)).2 keyless)
    refine ⟨records.map (·.name), ascending, listed, fun mode => ?_, fun names full => ?_,
      fun names known => ?_⟩
    · rw [List.length_map]
      cases direct : o.namesOnly || o.full with
      | true => exact count_getPath_listed counting selected allowed direct
      | false =>
        obtain ⟨names, full⟩ := Bool.or_eq_false_iff.1 direct
        have all : ∀ name ∈ records.map (·.name), ¬ Stops s c.rules o.reencrypt name := by
          rcases mode with mode | mode | all
          · rw [names] at mode
            cases mode
          · rw [full] at mode
            cases mode
          · exact all
        have read := count_getPath_direct counting selected direct
        rwa [tried_of_loads fun r mem => loads r mem (all _ (List.mem_map_of_mem mem))] at read
    · intro front name rest eq goes stops
      obtain ⟨before, behind, rfl, rfl, tail⟩ := List.map_eq_append_iff.1 eq
      obtain ⟨r, after, rfl, rfl, -⟩ := List.map_eq_cons_iff.1 tail
      have keyless := (stops_iff (latest r (by simp))).1 stops
      have failed := readRecord_eq_error.2 ⟨keyless, rfl⟩
      have first : ∀ q ∈ before, (readRecord c.rules o.reencrypt q).isOk = true := fun q mem =>
        loads q (List.mem_append_left _ mem) (goes _ (List.mem_map_of_mem mem))
      have read := count_getPath_direct counting selected (by rw [names, full]; rfl)
      rw [tried_of_first first failed, List.length_append] at read
      refine ⟨?_, by rw [List.length_map]; exact read⟩
      have answer := (yields_getPath kept path names c reading).1
      have error := mapM_eq_error.2 ⟨before, r, after, rfl, first, failed⟩
      rw [readPath, selected] at answer
      exact answer.trans (congrArg (Except.map Listing.parameters) error)
    · have full : o.full = false := by rwa [names, Bool.true_and] at allowed
      have answer := (yields_getPath_listed path names full c reading).1
      rwa [selectedNames, selected] at answer

end

/-! ## Histories -/

section
variable {Q : PutRequest → Prop} {s : Store} (kept : Store.Kept Q s)
include kept

theorem name_of_version {name : String} {r : Record} (mem : r ∈ s.versions name) : r.name = name := by
  unfold Store.versions at mem
  cases history : s.history.get? name with
  | none =>
    rw [history] at mem
    cases mem
  | some versions =>
    rw [history] at mem
    obtain ⟨q, version, tick, -, -, named, rfl⟩ := (kept name versions history).request r mem
    exact named

/-- All pages of a history are read; then the newest versions are loaded. -/
theorem getVersions_paged {c : Client} (reading : Reading s c.rules c) (name : String)
    (reencrypt : Bool) (limit : Option Nat) :
    let run := (getVersions name reencrypt limit).runOn c
    let newest := (s.versions name).reverse
    let wanted := limit.elim newest newest.take
    run.2.backend.count .history = c.backend.count .history + pages s.pageSize newest.length ∧
      newest.Pairwise (fun a b => b.version < a.version) ∧
      (name ∉ s.names → newest = []) ∧
      ((∃ r ∈ wanted, reencrypt = true ∧ Keyless c.rules r) →
        run.1 = .error (.noReencryptionKey name)) ∧
      ((∀ r ∈ wanted, ¬ (reencrypt = true ∧ Keyless c.rules r)) →
        ∃ ps, run.1 = .ok ps ∧ wanted.mapM (readRecord c.rules reencrypt) = .ok ps ∧
          ps.map (·.metadata.version) = wanted.map fun r => some r.version) := by
  intro run newest wanted
  have counting : Counting s c.rules .history (c.backend.count .history) c := ⟨reading, rfl⟩
  obtain ⟨answer, after⟩ := leads_getVersions kept name reencrypt limit _ c counting
  have named : ∀ r ∈ wanted, r.name = name := by
    intro r mem
    have mem' : r ∈ newest := by
      cases limit with
      | none => exact mem
      | some n => exact List.mem_of_mem_take mem
    exact name_of_version kept (List.mem_reverse.1 mem')
  refine ⟨?_, ?_, fun absent => ?_, fun ⟨r, mem, keyless⟩ => ?_, fun keys => ?_⟩
  · rw [List.length_reverse]
    exact after.count
  · exact List.pairwise_reverse.2 (kept.numbered name).ascending
  · have unknown : s.history.get? name = none := by
      rw [← Option.not_isSome_iff_eq_none]
      exact fun there => absent (NameMap.mem_names.2 there)
    show (s.versions name).reverse = []
    rw [Store.versions, unknown]
    rfl
  · obtain ⟨e, failed⟩ := exists_error_of_mem mem (readRecord_eq_error.2 ⟨keyless, rfl⟩)
    obtain ⟨front, q, rest, eq, -, here⟩ := mapM_eq_error.1 failed
    obtain ⟨-, rfl⟩ := readRecord_eq_error.1 here
    have named : q.name = name := named q (by rw [eq]; simp)
    rw [named] at failed
    exact answer.trans failed
  · cases loaded : wanted.mapM (readRecord c.rules reencrypt) with
    | error e =>
      obtain ⟨front, q, rest, eq, -, here⟩ := mapM_eq_error.1 loaded
      exact absurd (readRecord_eq_error.1 here).1 (keys q (by rw [eq]; simp))
    | ok ps =>
      exact ⟨ps, answer.trans loaded, rfl, versions_of_mapM loaded⟩

end

/-! ## Paged readings -/

/-- Paged readings lose and repeat nothing, whatever the size of the pages. Under a path there is a call
for each page of the names that match, and one if there are none; a direct reading ends at the page
with the first secret value that cannot be encrypted again. Of a history all pages are read, and the
newest versions are answered. -/
theorem paged_reads {s₀ : Store} (empty : s₀.history = .empty) (changes : List Store.Change)
    (pageSize : Nat) {c : Client} (store : c.backend.store = (s₀.changed changes).withPageSize pageSize)
    (working : c.backend.failing = []) :
    let s := c.backend.store
    let calls := pages (max pageSize 1)
    (∀ path (o : PathOptions),
      let run := (getPath path o).runOn c
      let before := c.backend.count .path
      ((o.namesOnly && o.full) = true → run = (.error (.invalidOptions .namesOnlyAndFull), c)) ∧
      ((o.namesOnly && o.full) = false → ∃ found : List String, found.Pairwise (· < ·) ∧
        (∀ name, name ∈ found ↔ s.Matches path o.recursive o.filters name) ∧
        (o.namesOnly = true ∨ o.full = true ∨
            (∀ name ∈ found, ¬ Stops s c.rules o.reencrypt name) →
          run.2.backend.count .path = before + calls found.length) ∧
        (o.namesOnly = false → o.full = false → ∀ front name rest, found = front ++ name :: rest →
          (∀ other ∈ front, ¬ Stops s c.rules o.reencrypt other) →
          Stops s c.rules o.reencrypt name →
          run.1 = .error (.noReencryptionKey name) ∧
            run.2.backend.count .path = before + calls (front.length + 1)) ∧
        (o.namesOnly = true → (∀ f ∈ o.filters, Filter.Supported f) →
          run.1 = .ok (.names found)))) ∧
    ∀ name reencrypt limit,
      let run := (getVersions name reencrypt limit).runOn c
      let newest := (s.versions name).reverse
      let wanted := limit.elim newest newest.take
      run.2.backend.count .history = c.backend.count .history + calls newest.length ∧
        newest.Pairwise (fun a b => b.version < a.version) ∧
        (name ∉ s.names → newest = []) ∧
        ((∃ r ∈ wanted, reencrypt = true ∧ Keyless c.rules r) →
          run.1 = .error (.noReencryptionKey name)) ∧
        ((∀ r ∈ wanted, ¬ (reencrypt = true ∧ Keyless c.rules r)) →
          ∃ ps, run.1 = .ok ps ∧ wanted.mapM (readRecord c.rules reencrypt) = .ok ps ∧
            ps.map (·.metadata.version) = wanted.map fun r => some r.version) := by
  intro s calls
  have kept : Store.Kept (fun _ => True) s := by
    show Store.Kept _ c.backend.store
    rw [store]
    exact (Store.kept_changed empty fun _ _ => trivial).withPageSize pageSize
  have size : s.pageSize = max pageSize 1 := by
    show c.backend.store.pageSize = _
    rw [store]
    rfl
  have reading : Reading s c.rules c := ⟨working, rfl, rfl⟩
  have same : calls = pages s.pageSize := by rw [size]
  rw [same]
  refine ⟨fun path o => ⟨fun both => ?_, getPath_paged kept reading path o⟩,
    fun name reencrypt limit => getVersions_paged kept reading name reencrypt limit⟩
  rw [getPath_refused both]
  rfl

/-- Two names on two pages, the second one a secret value without a key, and two versions on two pages. -/
theorem paged_reads_keyless :
    let c : Client := { backend := { store := (({} : Store).changed keylessSecret).withPageSize 0 } }
    let strings : Filter := { key := "Type", option := some "BeginsWith", values := ["S"] }
    let listing := (getPath "/app" { namesOnly := true, recursive := false, filters := [strings] }).runOn c
    let direct := (getPath "/app" {}).runOn c
    let versions := (getVersions "/app/host" true none).runOn c
    (listing.1 = .ok (.names ["/app/host", "/app/key"]) ∧ listing.2.backend.count .path = 2) ∧
      (direct.1 = .error (.noReencryptionKey "/app/key") ∧ direct.2.backend.count .path = 2) ∧
      ∃ ps, versions.1 = .ok ps ∧ ps.map (·.metadata.version) = [some 2, some 1] ∧
        versions.2.backend.count .history = 2 := by
  intro c strings listing direct versions
  have empty : ({} : Store).history = .empty := rfl
  obtain ⟨byPath, byHistory⟩ := paged_reads empty keylessSecret 0 (c := c) rfl rfl
  have known : ∀ f ∈ [strings], Filter.Supported f := by
    intro f mem
    obtain rfl := List.mem_singleton.1 mem
    exact ⟨by decide, by decide⟩
  refine ⟨?_, ?_, ?_⟩
  · obtain ⟨found, -, -, calls, -, answer⟩ :=
      (byPath "/app" { namesOnly := true, recursive := false, filters := [strings] }).2 rfl
    have answer : listing.1 = .ok (.names found) := answer rfl known
    have names : listing.1.map Listing.toNames = .ok ["/app/host", "/app/key"] := by decide +kernel
    rw [answer] at names
    obtain rfl : found = ["/app/host", "/app/key"] := Except.ok.inj names
    exact ⟨answer, calls (.inl rfl)⟩
  · obtain ⟨found, sorted, listed, -, stopped, -⟩ := (byPath "/app" {}).2 rfl
    -- the names that match are those of a listing
    obtain ⟨found', sorted', listed', -, -, answer⟩ := (byPath "/app" { namesOnly := true }).2 rfl
    have names : ((getPath "/app" { namesOnly := true }).runOn c).1.map Listing.toNames =
        .ok ["/app/host", "/app/key"] := by decide +kernel
    rw [answer rfl (List.forall_mem_nil _)] at names
    obtain rfl : found' = ["/app/host", "/app/key"] := Except.ok.inj names
    obtain rfl : found = ["/app/host", "/app/key"] :=
      sorted.eq_of_mem_iff sorted' fun name => (listed name).trans (listed' name).symm
    have goes : ¬ Stops c.backend.store c.rules true "/app/host" := by
      rintro ⟨-, r, latest, secret, -⟩
      cases latest
      cases secret
    have stops : Stops c.backend.store c.rules true "/app/key" := ⟨rfl, _, rfl, rfl, rfl⟩
    exact stopped rfl rfl ["/app/host"] "/app/key" [] rfl (by simpa using goes) stops
  · obtain ⟨calls, -, -, -, answers⟩ := byHistory "/app/host" true none
    have keys : ∀ r ∈ (c.backend.store.versions "/app/host").reverse,
        ¬ (true = true ∧ Keyless c.rules r) := by
      unfold Keyless
      decide +kernel
    obtain ⟨ps, answer, -, numbers⟩ := answers keys
    exact ⟨ps, answer, numbers.trans (by decide +kernel), calls.trans (by decide +kernel)⟩

/-- Two names, the first one a secret value without a key. -/
def keylessFirst : List Store.Change := [
  .put { name := "/a", kind := .secureString, value := "s" },
  .put { name := "/b", kind := .string, value := "x" }]

/-- Pages of one record. Both names match, and there is one call, not two. -/
theorem direct_reading_stops :
    let s := (({} : Store).changed keylessFirst).withPageSize 1
    let run := (getPath "/" {}).runOn { backend := { store := s } }
    (∀ name, name ∈ ["/a", "/b"] ↔ s.Matches "/" true [] name) ∧
      run.2.backend.count .path ≠ pages 1 ["/a", "/b"].length := by
  intro s run
  have empty : ({} : Store).history = .empty := rfl
  have kept : Store.Kept (fun _ => True) s :=
    (Store.kept_changed empty fun _ _ => trivial).withPageSize 1
  have names : (s.under "/" true).map (·.name) = ["/a", "/b"] := by decide +kernel
  refine ⟨?_, by decide +kernel⟩
  rw [← names]
  exact (Store.names_of_selected kept (s.selected_unfiltered "/" true)).2

end Client

end ParamFile
