import ParamFile.Proofs.Paging

/-!
# Reading by any path

What is read by name (`Client.readNames`) and under a path (`Client.readPath`) is said once, without
pages, batches and histories. Every way of reading ends like that:

* `yields_getBatches`: the latest versions of some names, batch by batch.
* `yields_getFull`: each name through its history, whose newest version is the latest one.
* `yields_gatherPath`: the pages under a path.
* `yields_getNames_selected`: the names that are listed under a path, read in either way by name.

So all ways of reading agree (`Client.reads_agree`), on errors, too: a secret value without a key comes
before names that are not stored.
-/

namespace ParamFile

open ParamFile.Action

namespace Store

/-- The latest versions under a path that pass some filters. -/
def selected (s : Store) (path : String) (recursive : Bool) (filters : List Filter) :
    Except Failure (List Record) :=
  (s.under path recursive).filterM (passesAll filters)

theorem listing_eq (s : Store) (q : Query) :
    s.listing q = (s.selected q.path q.recursive q.filters).map (List.map (shown q.decrypt)) := by
  show (s.selected q.path q.recursive q.filters >>= fun kept => pure (kept.map (shown q.decrypt))) = _
  cases s.selected q.path q.recursive q.filters <;> rfl

theorem latest_of_selected {Q : PutRequest → Prop} {s : Store} (h : Kept Q s) {path : String}
    {recursive : Bool} {filters : List Filter} {records : List Record}
    (found : s.selected path recursive filters = .ok records) :
    ∀ r ∈ records, s.latest? r.name = some r := fun _ hr =>
  ((mem_under h).1 ((filterM_sublist found).subset hr)).2

theorem name_shown (decrypt : Bool) (r : Record) : (shown decrypt r).name = r.name := by
  unfold shown
  split <;> rfl

theorem Numbered.shown {versions : List Record} (h : Numbered versions) (decrypt : Bool) :
    Numbered (versions.map (Store.shown decrypt)) := by
  intro i r hr
  rw [List.getElem?_map] at hr
  obtain ⟨q, hq, rfl⟩ := Option.map_eq_some_iff.1 hr
  have number := h i q hq
  unfold Store.shown
  split <;> exact number

end Store

namespace Client

/-! ## What is read -/

/-- What a record is loaded as: a secret value is encrypted again under the key that the rules choose. -/
def loaded (rules : List Rule) (reencrypt : Bool) (r : Record) : Except Error Parameter :=
  if reencrypt && r.kind.isSecure then
    match chosenKey rules r.name r.keyId with
    | none => .error (.noReencryptionKey r.name)
    | some key => .ok (.ofRecord r (some (Cipher.sealed r.value key)))
  else .ok (.ofRecord r none)

/-- What is read of a stored record. Secret values that are not encrypted again are shown sealed. -/
def readRecord (rules : List Rule) (reencrypt : Bool) (r : Record) : Except Error Parameter :=
  loaded rules reencrypt (Store.shown reencrypt r)

def found (s : Store) (rules : List Rule) (reencrypt : Bool) (names : List String) :
    Except Error (List Parameter) :=
  (names.filterMap s.latest?).mapM (readRecord rules reencrypt)

def unknown (s : Store) (names : List String) : List String :=
  names.filter fun name => (s.latest? name).isNone

def lookup (s : Store) (rules : List Rule) (reencrypt : Bool) (names : List String) :
    Except Error (List Parameter × List String) := do
  let parameters ← found s rules reencrypt names
  return (parameters, unknown s names)

/-- What is read by name, in the order of the names. -/
def readNames (s : Store) (rules : List Rule) (reencrypt : Bool) (names : List String) :
    Except Error (List Parameter) := do
  let (parameters, unknown) ← lookup s rules reencrypt names
  if unknown.isEmpty then return parameters else throw (.invalidParameters unknown)

/-- What is read under a path, in the order of the names there. -/
def readPath (s : Store) (rules : List Rule) (reencrypt : Bool) (path : String) (recursive : Bool)
    (filters : List Filter) : Except Error (List Parameter) := do
  let records ← (s.selected path recursive filters).mapError (Error.ofFailure .path none)
  records.mapM (readRecord rules reencrypt)

/-- The names under a path of parameters that pass some filters. -/
def selectedNames (s : Store) (path : String) (recursive : Bool) (filters : List Filter) :
    Except Error (List String) :=
  ((s.selected path recursive filters).mapError (Error.ofFailure .path none)).map
    (List.map (·.name))

theorem lookup_append (s : Store) (rules : List Rule) (reencrypt : Bool) (l m : List String) :
    lookup s rules reencrypt (l ++ m) = do
      let ps ← found s rules reencrypt l
      let x ← lookup s rules reencrypt m
      return (ps ++ x.1, unknown s l ++ x.2) := by
  simp only [lookup, found, unknown, List.filterMap_append, List.mapM_append, List.filter_append,
    bind_assoc, pure_bind]

theorem found_singleton {s : Store} {rules : List Rule} {reencrypt : Bool} {name : String}
    {ps : List Parameter} (h : found s rules reencrypt [name] = .ok ps) :
    ps = [] ∧ unknown s [name] = [name] ∨ ∃ p, ps = [p] ∧ unknown s [name] = [] := by
  cases hr : s.latest? name with
  | none =>
    simp only [found, List.filterMap_cons, hr] at h
    cases h
    exact .inl ⟨rfl, by simp [unknown, hr]⟩
  | some r =>
    simp only [found, List.filterMap_cons, List.filterMap_nil, hr, List.mapM_cons, List.mapM_nil] at h
    cases hp : readRecord rules reencrypt r with
    | error e =>
      rw [hp] at h
      cases h
    | ok p =>
      rw [hp] at h
      cases h
      exact .inr ⟨p, rfl, by simp [unknown, hr]⟩

theorem readNames_of_latest {s : Store} {records : List Record}
    (latest : ∀ r ∈ records, s.latest? r.name = some r) (rules : List Rule) (reencrypt : Bool) :
    readNames s rules reencrypt (records.map (·.name)) =
      records.mapM (readRecord rules reencrypt) := by
  have stored : (records.map (·.name)).filterMap s.latest? = records := by
    rw [List.filterMap_map]
    exact (List.filterMap_congr latest).trans List.filterMap_some
  have none : unknown s (records.map (·.name)) = [] := by
    rw [unknown, List.filter_eq_nil_iff]
    intro name hname
    obtain ⟨r, hr, rfl⟩ := List.mem_map.1 hname
    rw [latest r hr]
    simp
  rw [readNames, lookup, none, found, stored]
  simp only [bind_assoc, pure_bind]
  exact bind_pure _

section
variable {s : Store} {rules : List Rule}

/-! ## Records -/

theorem yields_encrypt_reading (plaintext keyId : String) :
    Yields (Reading s rules) (encrypt plaintext keyId) (.ok (Cipher.sealed plaintext keyId)) := by
  have asked : Yields (Reading s rules)
      (query .encrypt fun _ => .ok (Cipher.sealed plaintext keyId))
      (.ok (Cipher.sealed plaintext keyId)) := yields_query .encrypt _
  have remembered : Yields (Reading s rules)
      (remember (Cipher.sealed plaintext keyId) plaintext) (.ok ()) :=
    fun cl hcl => ⟨rfl, hcl.working, hcl.store, hcl.rules⟩
  exact asked.bind (remembered.bind (.pure _))

theorem yields_loadRecord (reencrypt : Bool) (r : Record) :
    Yields (Reading s rules) (loadRecord reencrypt r) (loaded rules reencrypt r) := by
  unfold loadRecord loaded
  cases reencrypt && r.kind.isSecure with
  | false => exact .pure _
  | true =>
    simp only [Bool.not_true, Bool.false_eq_true, if_false, if_true]
    refine Yields.get_bind fun cl hcl => ?_
    rw [hcl.rules]
    cases chosenKey rules r.name r.keyId with
    | none => exact .throw _
    | some key => exact (yields_encrypt_reading r.value key).bind (.pure _)

theorem yields_loadRecords (reencrypt : Bool) (records : List Record) :
    Yields (Reading s rules) ((records.map (Store.shown reencrypt)).mapM (loadRecord reencrypt))
      (records.mapM (readRecord rules reencrypt)) := by
  rw [List.mapM_map]
  exact .traverse fun r _ => yields_loadRecord reencrypt _

/-! ## By name -/

theorem yields_getBatches (reencrypt : Bool) {parts : List (List String)}
    (small : ∀ part ∈ parts, part.length ≤ greatestBatch) :
    Yields (Reading s rules) (getBatches reencrypt parts) (lookup s rules reencrypt parts.flatten) := by
  induction parts with
  | nil => exact .pure _
  | cons part rest ih =>
    have lookup : s.get part reencrypt =
        .ok ⟨(part.filterMap s.latest?).map (Store.shown reencrypt), unknown s part⟩ := by
      have enough := small part List.mem_cons_self
      rw [Store.get, Store.checkBatch, if_neg (by omega), List.map_filterMap]
      rfl
    have answered : Yields (Reading s rules) (query .get fun s => s.get part reencrypt)
        (.ok ⟨(part.filterMap s.latest?).map (Store.shown reencrypt), unknown s part⟩) := by
      rw [show (.ok _ : Except Error Store.Lookup) =
        (s.get part reencrypt).mapError (Error.ofFailure .get none) by rw [lookup]; rfl]
      exact yields_query .get _
    have here : Yields (Reading s rules)
        (((part.filterMap s.latest?).map (Store.shown reencrypt)).mapM (loadRecord reencrypt))
        (found s rules reencrypt part) := yields_loadRecords reencrypt _
    have later := ih fun part hp => small part (List.mem_cons_of_mem _ hp)
    rw [List.flatten_cons, lookup_append, getBatches]
    exact answered.bind (here.andThen fun ps _ => later.andThen fun x _ => .pure _)

section
variable {Q : PutRequest → Prop} (kept : Store.Kept Q s)
include kept

/-- Of the versions of a history, those that are wanted are loaded, the newest first. -/
theorem yields_loadVersions (name : String) (reencrypt : Bool) (limit : Option Nat) :
    let newestFirst := ((s.versions name).map (Store.shown reencrypt)).mergeSort
      fun a b => b.version ≤ a.version
    let newest := (s.versions name).reverse
    Yields (Reading s rules) ((limit.elim newestFirst newestFirst.take).mapM (loadRecord reencrypt))
      ((limit.elim newest newest.take).mapM (readRecord rules reencrypt)) := by
  intro newestFirst newest
  have wanted : limit.elim newestFirst newestFirst.take =
      (limit.elim newest newest.take).map (Store.shown reencrypt) := by
    have sorted : newestFirst = newest.map (Store.shown reencrypt) := by
      rw [List.map_reverse]
      exact ((kept.numbered name).shown reencrypt).newestFirst
    rw [sorted]
    cases limit with
    | none => rfl
    | some n => exact List.map_take.symm
  rw [wanted]
  exact yields_loadRecords reencrypt _

theorem yields_getVersions (name : String) (reencrypt : Bool) (limit : Option Nat) :
    let newest := (s.versions name).reverse
    Yields (Reading s rules) (getVersions name reencrypt limit)
      ((limit.elim newest newest.take).mapM (readRecord rules reencrypt)) := by
  have bounded : ((s.versions name).map (Store.shown reencrypt)).length ≤ listingBound s := by
    rw [List.length_map]
    exact length_versions_le_bound s name
  have all : Yields (Reading s rules) (gatherAll (fetchHistory name reencrypt) pure)
      (.ok ((s.versions name).map (Store.shown reencrypt))) :=
    yields_gatherAll (fun start => yields_query .history _) bounded
  exact all.bind (yields_loadVersions kept name reencrypt limit)

omit kept in
theorem found_latest (rules : List Rule) (name : String) (reencrypt : Bool) :
    found s rules reencrypt [name] =
      ((s.versions name).reverse.take 1).mapM (readRecord rules reencrypt) := by
  rw [found, List.filterMap_cons, List.take_one, List.head?_reverse, Store.getLast?_versions]
  cases s.latest? name <;> rfl

theorem yields_getFull (reencrypt : Bool) (names : List String) :
    Yields (Reading s rules) (getFull reencrypt names) (lookup s rules reencrypt names) := by
  induction names with
  | nil => exact .pure _
  | cons name rest ih =>
    have here : Yields (Reading s rules) (getVersions name reencrypt (some 1))
        (found s rules reencrypt [name]) := by
      rw [found_latest]
      exact yields_getVersions kept name reencrypt (some 1)
    rw [← List.singleton_append, lookup_append]
    show Yields (Reading s rules) (getFull reencrypt (name :: rest)) _
    rw [getFull]
    refine here.andThen fun ps hps => ih.andThen fun x _ => ?_
    -- the history of a name has a newest version just if the name is stored
    rcases found_singleton hps with ⟨rfl, absent⟩ | ⟨p, rfl, present⟩
    · rw [absent]
      exact .pure _
    · rw [present]
      exact .pure _

/-! ## Reading -/

/-- Reading by name does not depend on the way. -/
theorem yields_getNames (names : List String) (o : ReadOptions) :
    Yields (Reading s rules) (getNames names o) (readNames s rules o.reencrypt names) := by
  have last : ∀ x : List Parameter × List String, Yields (Reading s rules)
      (if x.2.isEmpty then pure x.1 else throw (.invalidParameters x.2) : ClientM _)
      (if x.2.isEmpty then pure x.1 else throw (.invalidParameters x.2)) := by
    intro x
    split
    · exact .pure _
    · exact .throw _
  rw [readNames, getNames]
  cases o.full with
  | true => exact (yields_getFull kept o.reencrypt names).andThen fun x _ => last x
  | false =>
    refine Yields.get_bind fun cl hcl => ?_
    have batched : Yields (Reading s rules) (getBatches o.reencrypt (batches cl.batchSize names)) _ :=
      yields_getBatches o.reencrypt fun part hp =>
        Nat.le_trans (length_le_of_mem_batches cl.batchSize_pos hp) cl.batchSize_le
    rw [flatten_batches] at batched
    exact batched.andThen fun x _ => last x

omit kept in
/-- The pages under a path, each record loaded by `load`. -/
theorem yields_gatherPath {α : Type} (q : Store.Query) {load : Record → ClientM α}
    {g : Record → Except Error α} (hl : ∀ r, Yields (Reading s rules) (load r) (g r)) :
    Yields (Reading s rules) (gatherAll (fetchPath q) load) (do
      let records ← (s.selected q.path q.recursive q.filters).mapError (Error.ofFailure .path none)
      records.mapM fun r => g (Store.shown q.decrypt r)) := by
  have fetched : ∀ start, Yields (Reading s rules) (fetchPath q start)
      (((s.listing q).mapError (Error.ofFailure .path none)).map fun records =>
        s.page records start) := by
    intro start
    have page : ((s.listing q).mapError (Error.ofFailure .path none)).map
        (fun records => s.page records start) =
        (s.pathPage q start).mapError (Error.ofFailure .path none) := by
      unfold Store.pathPage
      cases s.listing q <;> rfl
    rw [page]
    exact yields_query .path _
  have bounded : ∀ records, (s.listing q).mapError (Error.ofFailure .path none) = .ok records →
      records.length ≤ listingBound s := by
    intro records listed
    rw [Store.listing_eq] at listed
    cases found : s.selected q.path q.recursive q.filters with
    | error f =>
      rw [found] at listed
      cases listed
    | ok kept =>
      rw [found] at listed
      cases listed
      -- filters only take records away
      have some := (Store.filterM_sublist found).length_le
      have all := length_under_le_bound s q.path q.recursive
      rw [List.length_map]
      omega
  have answer : (do
      let records ← (s.selected q.path q.recursive q.filters).mapError (Error.ofFailure .path none)
      records.mapM fun r => g (Store.shown q.decrypt r)) =
      (s.listing q).mapError (Error.ofFailure .path none) >>= fun records => records.mapM g := by
    rw [Store.listing_eq]
    cases s.selected q.path q.recursive q.filters with
    | error f => rfl
    | ok kept => exact List.mapM_map.symm
  rw [answer]
  exact yields_loadAll fetched (fun _ _ r _ => hl r) bounded

omit kept in
theorem yields_gatherNames (q : Store.Query) :
    Yields (Reading s rules) (gatherAll (fetchPath q) fun r => pure r.name)
      (selectedNames s q.path q.recursive q.filters) := by
  have names : selectedNames s q.path q.recursive q.filters = (do
      let records ← (s.selected q.path q.recursive q.filters).mapError (Error.ofFailure .path none)
      records.mapM fun r => .ok (Store.shown q.decrypt r).name) := by
    simp only [Store.name_shown]
    rw [selectedNames]
    cases s.selected q.path q.recursive q.filters with
    | error f => rfl
    | ok records => exact (List.mapM_pure (m := Except Error)).symm
  rw [names]
  exact yields_gatherPath q fun _ => .pure _

omit kept in
theorem yields_getPath_listed (path : String) {o : PathOptions} (listed : o.namesOnly = true)
    (pages : o.full = false) :
    Yields (Reading s rules) (getPath path o)
      ((selectedNames s path o.recursive o.filters).map .names) := by
  unfold getPath
  simp only [listed, pages, Bool.and_false, Bool.or_false, Bool.false_eq_true, if_false, if_true]
  rw [← map_eq_pure_bind]
  exact (yields_gatherNames ⟨path, o.recursive, _, o.filters⟩).map Listing.names

/-- What is read by the names under a path is what is read there. -/
theorem readNames_selected (reencrypt : Bool) (path : String) (recursive : Bool)
    (filters : List Filter) :
    selectedNames s path recursive filters >>= readNames s rules reencrypt =
      readPath s rules reencrypt path recursive filters := by
  unfold selectedNames readPath
  cases selected : s.selected path recursive filters with
  | error f => rfl
  | ok records => exact readNames_of_latest (Store.latest_of_selected kept selected) rules reencrypt

theorem yields_getNames_selected {listing : ClientM (List String)} {path : String}
    {recursive : Bool} {filters : List Filter}
    (listed : Yields (Reading s rules) listing (selectedNames s path recursive filters))
    (o : ReadOptions) :
    Yields (Reading s rules) (listing >>= fun names => getNames names o)
      (readPath s rules o.reencrypt path recursive filters) := by
  rw [← readNames_selected kept]
  exact listed.andThen fun names _ => yields_getNames kept names o

/-- Reading under a path does not depend on the way. -/
theorem yields_getPath (path : String) {o : PathOptions} (whole : o.namesOnly = false) :
    Yields (Reading s rules) (getPath path o)
      ((readPath s rules o.reencrypt path o.recursive o.filters).map .parameters) := by
  unfold getPath
  simp only [whole, Bool.false_and, Bool.false_or, Bool.not_false, Bool.and_true,
    Bool.false_eq_true, if_false]
  cases o.full with
  | false => exact (yields_gatherPath _ (yields_loadRecord o.reencrypt)).map _
  | true =>
    simp only [if_true, ← map_bind]
    exact (yields_getNames_selected kept (yields_gatherNames _) ⟨true, o.reencrypt⟩).map _

end

end

/-! ## All ways -/

/-- All ways of reading agree. In every state that a store can reach, with pages and batches of any
size, what is read by name is the same in batches and through histories; and what is read under a path
is the same from its pages, through histories, and by the names that are listed there. -/
theorem reads_agree {s₀ : Store} (empty : s₀.history = .empty) (changes : List Store.Change)
    {c : Client} (store : c.backend.store = s₀.changed changes) (working : c.backend.failing = []) :
    let s := s₀.changed changes
    (∀ names full reencrypt, ((getNames names ⟨full, reencrypt⟩).runOn c).1 =
      readNames s c.rules reencrypt names) ∧
    (∀ path full reencrypt recursive filters,
      ((getPath path { full, reencrypt, recursive, filters }).runOn c).1 =
        (readPath s c.rules reencrypt path recursive filters).map .parameters) ∧
    (∀ path full reencrypt shown recursive filters,
      ((do
        let listed ← getPath path { namesOnly := true, reencrypt := shown, recursive, filters }
        getNames listed.toNames ⟨full, reencrypt⟩).runOn c).1 =
          readPath s c.rules reencrypt path recursive filters) := by
  intro s
  have kept : Store.Kept (fun _ => True) s := Store.kept_changed empty fun _ _ => trivial
  have reading : Reading s c.rules c := ⟨working, store, rfl⟩
  refine ⟨fun names full reencrypt => ?_, fun path full reencrypt recursive filters => ?_,
    fun path full reencrypt shown recursive filters => ?_⟩
  · exact (yields_getNames kept names _ c reading).1
  · exact (yields_getPath kept path rfl c reading).1
  · have same : ((selectedNames s path recursive filters).map Listing.names).map Listing.toNames =
        selectedNames s path recursive filters := by
      cases selectedNames s path recursive filters <;> rfl
    have listed : Yields (Reading s c.rules) (Listing.toNames <$>
        getPath path { namesOnly := true, reencrypt := shown, recursive, filters })
        (selectedNames s path recursive filters) := by
      rw [← same]
      exact (yields_getPath_listed path rfl rfl).map _
    have read := yields_getNames_selected kept listed ⟨full, reencrypt⟩
    rw [bind_map_left] at read
    exact (read c reading).1

/-- Two versions of a name, and a secret value without a key. -/
def keylessSecret : List Store.Change := [
  .put { name := "/app/host", kind := .string, value := "a" },
  .put { name := "/app/host", kind := .string, value := "b", overwrite := true },
  .put { name := "/app/key", kind := .secureString, value := "k" }]

/-- Pages of one record. A name that is not stored is an error as often as it is asked for, but the missing
key of the secret value comes before it. -/
theorem reads_agree_keyless :
    let s := (({} : Store).withPageSize 1).changed keylessSecret
    let c : Client := { backend := { store := s } }
    (∀ full, ((getNames ["/x", "/app/host", "/y", "/x"] ⟨full, true⟩).runOn c).1 =
      .error (.invalidParameters ["/x", "/y", "/x"])) ∧
    (∀ full, ((getNames ["/x", "/app/host", "/app/key"] ⟨full, true⟩).runOn c).1 =
      .error (.noReencryptionKey "/app/key")) ∧
    (∀ full, ((getPath "/app" { full, reencrypt := true }).runOn c).1 =
      .error (.noReencryptionKey "/app/key")) ∧
    (∀ full, ((getPath "/app" { full, reencrypt := false }).runOn c).1.map Listing.toNames =
      .ok ["/app/host", "/app/key"]) := by
  intro s c
  obtain ⟨byName, byPath, -⟩ := reads_agree (c := c) rfl keylessSecret rfl rfl
  refine ⟨fun full => ?_, fun full => ?_, fun full => ?_, fun full => ?_⟩
  · exact (byName _ full true).trans (by rfl)
  · exact (byName _ full true).trans (by rfl)
  · exact (byPath "/app" full true true []).trans (by rfl)
  · rw [byPath "/app" full false true []]
    rfl

end Client

end ParamFile
