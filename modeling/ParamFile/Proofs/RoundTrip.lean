import Mathlib.Data.List.Sort
import ParamFile.Proofs.Entries
import ParamFile.Proofs.Listing
import ParamFile.Proofs.Matching
import ParamFile.Proofs.Writing

/-!
# Push, download, push

What a client reads under some paths is written into a document (`Client.snapshot`): one entry for each
latest version there, whatever paths it lies under (`yields_snapshot`). The document is read again as
the entries' parameters (`reload_written`), and pushing them writes what the records hold
(`putAll_entries`). So an empty store that the document is pushed into mirrors the first one under
these paths (`push_of_snapshot`).
-/

namespace ParamFile

open ParamFile.Action Yaml

/-! ## Records that are written down -/

namespace Document

/-- The entry of a record, whose value may have been replaced by a ciphertext. -/
def Entry.ofRecord (r : Record) (ciphertext : Option String) : Entry where
  name := r.name
  kind := r.kind
  text := ciphertext.getD r.value
  isEncrypted := ciphertext.isSome
  allowedPattern := r.allowedPattern
  description := r.description
  keyId := r.keyId

theorem Entry.stated_ofRecord (r : Record) (ciphertext : Option String) :
    (Entry.ofRecord r ciphertext).Stated (.ofRecord r ciphertext) :=
  ⟨rfl, rfl, rfl, rfl, rfl, rfl, rfl⟩

/-- The value that an entry stands for. -/
def Entry.Means (e : Entry) (value : String) : Prop :=
  (e.isEncrypted = false ∧ e.text = value) ∨
    (e.isEncrypted = true ∧ ∃ keyId, Cipher.opened e.text = .ok (keyId, value))

/-- Records are compiled to their entries, if secret values are ciphertext. -/
theorem compileEntries_records {ciphertext : Record → Option String} {rs : List Record}
    (secure : ∀ r ∈ rs, (ciphertext r).isSome = r.kind.isSecure) (b : Bindings) (m : Mapping) :
    compileEntries b false (rs.map fun r => .ofRecord r (ciphertext r)) m =
      pure (withEntries m
        (rs.map fun r => (r.name, (Entry.ofRecord r (ciphertext r)).fields))) := by
  refine compileEntries_stated (fun r => .ofRecord r (ciphertext r))
    (fun r => .ofRecord r (ciphertext r)) (fun r hr => ?_) false m
  refine ⟨Entry.stated_ofRecord r (ciphertext r), fun sealed => ?_, Template.resolve_literal b r.name⟩
  exact (secure r hr).symm.trans sealed

end Document

/-! ## Reading -/

namespace Store

/-- The latest versions of the names under some paths, path by path. -/
def underAny (s : Store) (paths : List String) : List Record :=
  paths.flatMap fun path => s.under path true

variable {Q : PutRequest → Prop} {s : Store} (kept : Kept Q s)
include kept

theorem mem_underAny {paths : List String} {r : Record} :
    r ∈ s.underAny paths ↔
      s.latest? r.name = some r ∧ ∃ path ∈ paths, Below path true r.name := by
  simp only [underAny, List.mem_flatMap, mem_under kept, isUnder_iff]
  constructor
  · rintro ⟨path, hp, below, hr⟩
    exact ⟨hr, path, hp, below⟩
  · rintro ⟨hr, path, hp, below⟩
    exact ⟨path, hp, below, hr⟩

/-- A name under several paths is found with the same version each time. -/
theorem coherent_underAny (paths : List String) :
    Document.Coherent Record.name (s.underAny paths) := by
  intro q hq r hr same
  have first := ((mem_underAny kept).1 hq).1
  rw [same, ((mem_underAny kept).1 hr).1] at first
  exact (Option.some.inj first).symm

end Store

namespace Client

/-- The document of what is stored under some paths, which it lists to be flushed. -/
def snapshot (paths : List String) (b : Bindings) : ClientM Mapping := do
  let listings ← paths.mapM fun path => getPath path { full := true }
  Document.compile (listings.flatMap Listing.toParameters) paths false b

/-- The entry of a record that is read by these rules. -/
def entryOf (rules : List Rule) (r : Record) : Document.Entry :=
  .ofRecord r (resealed rules r)

section
variable {s : Store} (rules : List Rule) {Q : PutRequest → Prop} (kept : Store.Kept Q s)
  (keyed : ∀ name r, s.latest? name = some r → Keyed r)
  (unreserved : ∀ name r, s.latest? name = some r → Document.isReserved name = false)
include kept keyed unreserved

/-- The document has one entry for each latest version under some of the paths. -/
theorem yields_snapshot (paths : List String) (b : Bindings) :
    ∃ rs : List Record, (∀ r, r ∈ rs ↔ r ∈ s.underAny paths) ∧ (rs.map (·.name)).Nodup ∧
      Yields (Reading s rules) (snapshot paths b)
        (.ok (Document.written paths (rs.map (entryOf rules)))) := by
  have fresh : ∀ r ∈ s.underAny paths, (Document.flushEntry paths).get? r.name = none := by
    intro r hr
    refine Document.get?_flushEntry ?_ paths
    intro eq
    have plain := unreserved r.name r ((Store.mem_underAny kept).1 hr).1
    rw [eq] at plain
    revert plain
    decide
  -- overlapping paths list a record twice, and its second entry is the first one again
  obtain ⟨rs, mem, nodup, eq⟩ := Document.withEntries_of_coherent
    (fun r => (entryOf rules r).fields) (Store.coherent_underAny kept paths) fresh
  have listings : Yields (Reading s rules)
      (paths.mapM fun path => getPath path { full := true })
      (.ok (paths.map fun path =>
        .parameters ((s.under path true).map fun r => .ofRecord r (resealed rules r)))) :=
    .mapM fun path _ => yields_getPath_keyed kept rules keyed path
  have parameters : (paths.map fun path => Listing.parameters
      ((s.under path true).map fun r => .ofRecord r (resealed rules r))).flatMap
        Listing.toParameters =
      (s.underAny paths).map fun r => .ofRecord r (resealed rules r) := by
    simp only [Store.underAny, List.flatMap_map, List.map_flatMap, Listing.toParameters]
  have secure : ∀ r ∈ s.underAny paths, (resealed rules r).isSome = r.kind.isSecure :=
    fun r hr => isSome_resealed rules (keyed r.name r ((Store.mem_underAny kept).1 hr).1)
  have document : Document.withEntries (Document.flushEntry paths) ((s.underAny paths).map fun r =>
      (r.name, (Document.Entry.ofRecord r (resealed rules r)).fields)) =
      Document.written paths (rs.map (entryOf rules)) := by
    rw [Document.written, List.map_map]
    exact eq
  refine ⟨rs, mem, nodup, listings.bind ?_⟩
  rw [parameters, Document.compile, Document.compileEntries_records secure, document]
  exact .pure _

end

/-! ## Writing -/

/-- The request that writes a record again. -/
def again (overwrite : Bool) (r : Record) : PutRequest where
  name := r.name
  kind := r.kind
  value := r.value
  allowedPattern := r.allowedPattern
  description := r.description
  keyId := r.keyId
  overwrite := overwrite

theorem chosenKey_cases {rules : List Rule} {name : String} {own : Option String} {key : String}
    (h : chosenKey rules name own = some key) :
    (∃ rule ∈ rules, rule.keyId = some key) ∨ own = some key := by
  unfold chosenKey at h
  dsimp only at h
  cases hr : (rules.find? (Rule.isFor name)).orElse fun _ =>
      rules.find? (·.namePrefix.isNone) with
  | none =>
    rw [hr] at h
    exact .inr h
  | some rule =>
    have mem : rule ∈ rules := by
      cases hf : rules.find? (Rule.isFor name) with
      | some first =>
        rw [hf] at hr
        cases hr
        exact List.mem_of_find?_eq_some hf
      | none =>
        rw [hf] at hr
        exact List.mem_of_find?_eq_some hr
    rw [hr, Option.bind_some] at h
    cases hk : rule.keyId with
    | none =>
      rw [hk] at h
      exact .inr h
    | some k =>
      rw [hk] at h
      exact .inl ⟨rule, mem, hk.trans h⟩

/-- What is read of a record stands for its value. -/
theorem means_entryOf {rules : List Rule}
    (free : ∀ rule ∈ rules, ∀ key, rule.keyId = some key → Cipher.separator ∉ key.toList)
    {r : Record} (own : ∀ key, r.keyId = some key → Cipher.separator ∉ key.toList)
    (keyed : Keyed r) : (entryOf rules r).Means r.value := by
  cases hk : r.kind.isSecure with
  | false =>
    rw [entryOf, resealed_of_plain rules hk]
    exact .inl ⟨rfl, rfl⟩
  | true =>
    obtain ⟨key, chosen, eq⟩ := resealed_of_secure rules keyed hk
    have keyFree : Cipher.separator ∉ key.toList := by
      rcases chosenKey_cases chosen with ⟨rule, hr, eq⟩ | eq
      · exact free rule hr key eq
      · exact own key eq
    rw [entryOf, eq]
    exact .inr ⟨rfl, key, Cipher.opened_sealed keyFree⟩

section
variable {region account : String} {b : Bindings} {e : Document.Entry} {value : String}
  (means : e.Means value)
include means

theorem yields_readValue_entry :
    Yields (Faithful region account) (e.parameter.readValue b) (.ok (some value)) := by
  have raw : e.parameter.readRaw b = pure (some e.text) := by
    simp [Parameter.readRaw, Document.Entry.parameter]
  have key : e.parameter.readKeyId b = pure e.keyId := Document.resolveOption_literal b e.keyId
  have encrypted : e.parameter.isEncrypted = e.isEncrypted := rfl
  rw [Parameter.readValue, raw, key, encrypted]
  rcases means with ⟨he, rfl⟩ | ⟨he, keyId, ho⟩
  · rw [he]
    exact .pure _
  · rw [he]
    exact (Yields.pure _).bind ((Yields.pure _).bind ((yields_decrypt_ok ho).map some))

theorem yields_request_entry (plain : IsPlain e.name.toList) (overwrite : Bool) :
    Yields (Faithful region account) (request? b overwrite e.parameter)
      (.ok (some ⟨e.name, e.kind, value, e.allowedPattern, e.description, e.keyId, overwrite⟩)) := by
  have enabled : e.parameter.readDisabled b = pure false := rfl
  have name : e.parameter.readName b = pure e.name := plain.resolve b
  have pattern : e.parameter.readPattern b = pure e.allowedPattern :=
    Document.resolveOption_literal b e.allowedPattern
  have key : e.parameter.readKeyId b = pure e.keyId := Document.resolveOption_literal b e.keyId
  rw [request?, enabled, name, pattern, key]
  refine (Yields.pure _).bind ((Yields.pure _).bind ((yields_readValue_entry means).bind ?_))
  exact (Yields.pure _).bind ((Yields.pure _).bind (.pure _))

end

/-- Pushing what was read of some records asks for what they hold, in their order. -/
theorem yields_requests_records {region account : String} {b : Bindings} {rules : List Rule}
    {rs : List Record} (means : ∀ r ∈ rs, (entryOf rules r).Means r.value)
    (plain : ∀ r ∈ rs, IsPlain r.name.toList) (overwrite : Bool) :
    Yields (Faithful region account)
      (requests b overwrite (rs.map fun r => (entryOf rules r).parameter))
      (.ok (rs.map (again overwrite))) := by
  have each : Yields (Faithful region account)
      ((rs.map fun r => (entryOf rules r).parameter).mapM (request? b overwrite))
      (.ok (rs.map fun r => some (again overwrite r))) := by
    rw [List.mapM_map]
    exact .mapM fun r hr => yields_request_entry (means r hr) (plain r hr) overwrite
  have all : (rs.map fun r => some (again overwrite r)).filterMap id = rs.map (again overwrite) := by
    simp [List.filterMap_map]
  rw [← all]
  exact each.map _

end Client

/-! ## The round trip -/

/-- A request for a parameter that goes through a document unharmed: it has a key exactly if it is
secret, and its name is neither reserved nor holds references. -/
structure Portable (q : PutRequest) : Prop where
  keyed : q.keyId.isSome = q.kind.isSecure
  keyFree : ∀ keyId, q.keyId = some keyId → Cipher.separator ∉ keyId.toList
  unreserved : Document.isReserved q.name = false
  plain : IsPlain q.name.toList

/-- The records say the same of their parameters. -/
structure Record.Alike (r r' : Record) : Prop where
  name : r'.name = r.name
  kind : r'.kind = r.kind
  value : r'.value = r.value
  allowedPattern : r'.allowedPattern = r.allowedPattern
  description : r'.description = r.description
  keyId : r'.keyId = r.keyId

namespace Store

/-- A store holds the names that another one holds under some paths, and no others; each with what its
latest version there says. -/
structure Mirrors (t s : Store) (paths : List String) : Prop where
  names : ∀ name, name ∈ t.names ↔
    name ∈ s.names ∧ ∃ path ∈ paths, Below path true name
  latest : ∀ name ∈ t.names, ∃ r r', s.latest? name = some r ∧ t.latest? name = some r' ∧
    r.Alike r'

/-- Writing the latest versions under some paths into an empty store makes it mirror them. -/
theorem mirrors_putEach {Q : PutRequest → Prop} {s t : Store} (kept : Kept Q s)
    (empty : t.history = .empty) {paths : List String} {rs : List Record}
    (mem : ∀ r, r ∈ rs ↔ r ∈ s.underAny paths) (nodup : (rs.map (·.name)).Nodup)
    (overwrite : Bool) :
    (putEach (rs.map (Client.again overwrite)) t).1 = .ok () ∧
      Mirrors (putEach (rs.map (Client.again overwrite)) t).2 s paths := by
  have found : ∀ r, r ∈ rs ↔
      s.latest? r.name = some r ∧ ∃ path ∈ paths, Below path true r.name :=
    fun r => (mem r).trans (mem_underAny kept)
  have names : (rs.map (Client.again overwrite)).map (·.name) = rs.map (·.name) := by
    rw [List.map_map]
    rfl
  have checked : ∀ q ∈ rs.map (Client.again overwrite), PutRequest.check q = .ok () := by
    intro q hq
    obtain ⟨r, hr, rfl⟩ := List.mem_map.1 hq
    obtain ⟨q, version, tick, -, ok, -, rfl⟩ := kept.latest ((found r).1 hr).1
    exact check_congr rfl rfl ok
  obtain ⟨granted, written, stored⟩ := putEach_of_empty empty checked (names ▸ nodup)
  rw [names] at stored
  refine ⟨granted, fun name => ?_, fun name hname => ?_⟩
  · rw [stored]
    constructor
    · intro hname
      obtain ⟨r, hr, rfl⟩ := List.mem_map.1 hname
      obtain ⟨hs, path, hp, below⟩ := (found r).1 hr
      exact ⟨mem_names_of_latest hs, path, hp, below⟩
    · rintro ⟨hs, path, hp, below⟩
      obtain ⟨r, hr⟩ := kept.exists_latest hs
      obtain rfl := kept.latest_name hr
      exact List.mem_map.2 ⟨r, (found r).2 ⟨hr, path, hp, below⟩, rfl⟩
  · obtain ⟨r, hr, rfl⟩ := List.mem_map.1 ((stored name).1 hname)
    obtain ⟨tick, latest⟩ := written _ (List.mem_map_of_mem hr)
    exact ⟨r, _, ((found r).1 hr).1, latest, rfl, rfl, rfl, rfl, rfl, rfl⟩

end Store

namespace Document

theorem admissible_entryOf (rules : List Rule) (o : LoadOptions) {r : Record}
    (keyed : r.keyId.isSome = r.kind.isSecure) : (Client.entryOf rules r).Admissible o := by
  have isSome := Client.isSome_resealed rules (r := r) fun hk => keyed.trans hk
  exact ⟨keyed, fun he => isSome.symm.trans he, fun hk => .inl (isSome.trans hk)⟩

section
variable {rules : List Rule} {overwrite : Bool} {rs : List Record}
  (portable : ∀ r ∈ rs, Portable (Client.again overwrite r))
include portable

/-- What was written of portable records is read again, and resolves without asking, to parameters for
the same entries. -/
theorem reload_written {o : LoadOptions} (nameOnly : o.varsInNameOnly = true)
    (nodup : (rs.map (·.name)).Nodup) {paths : List String}
    (plain : ∀ path ∈ paths, IsPlain path.toList) (echo : Option Bool) (prompter : Prompter) :
    ∃ d, ofTree o (.map (written paths (rs.map (Client.entryOf rules)))) = .ok d ∧
      (d.resolve false echo).runOn prompter = (.ok (d.bound .empty), prompter) ∧
      (d.bound .empty).list = rs.map fun r => (Client.entryOf rules r).parameter := by
  have names : (rs.map (Client.entryOf rules)).map (·.name) = rs.map (·.name) := by
    rw [List.map_map]
    rfl
  have entries : ∀ e ∈ rs.map (Client.entryOf rules),
      e.Admissible o ∧ isReserved e.name = false ∧ IsPlain e.name.toList := by
    intro e he
    obtain ⟨r, hr, rfl⟩ := List.mem_map.1 he
    have hq := portable r hr
    exact ⟨admissible_entryOf rules o hq.keyed, hq.unreserved, hq.plain⟩
  obtain ⟨d, tree, -, parameters, flushPaths⟩ := ofTree_entries nameOnly
    (fun e he => (entries e he).1) (fun e he => (entries e he).2.1) (names ▸ nodup) paths
  have none : d.variableNames = .empty :=
    variableNames_of_entries parameters flushPaths (fun e he => (entries e he).2.2) plain
  refine ⟨d, tree, resolve_of_no_variables none false echo prompter, ?_⟩
  rw [Resolved.list, bound, OrderedMap.values, parameters, List.map_map, List.map_map]
  rfl

/-- Pushing parameters for the entries of portable records writes the records again. -/
theorem putAll_entries
    (free : ∀ rule ∈ rules, ∀ key, rule.keyId = some key → Cipher.separator ∉ key.toList)
    {ps : List Parameter} (list : ps = rs.map fun r => (Client.entryOf rules r).parameter)
    {region account : String} {c : Client} (new : Client.Faithful region account c) (b : Bindings)
    (granted : (Store.putEach (rs.map (Client.again overwrite)) c.backend.store).1 = .ok ()) :
    ∃ n t, (Client.putAll ps b overwrite).runOn c = (.ok n, t) ∧
      t.backend.store = (Store.putEach (rs.map (Client.again overwrite)) c.backend.store).2 := by
  have requests : Action.Yields (Client.Faithful region account)
      (Client.requests b overwrite ps) (.ok (rs.map (Client.again overwrite))) := by
    rw [list]
    refine Client.yields_requests_records (fun r hr => ?_) (fun r hr => (portable r hr).plain) overwrite
    exact Client.means_entryOf free (portable r hr).keyFree fun hk => (portable r hr).keyed.trans hk
  obtain ⟨u, built, hu⟩ := requests.runOn new
  have store : u.backend.store = c.backend.store := by
    have kept := Client.keeps_store_requests (b := b) overwrite ps c
    rwa [built] at kept
  have written := Client.putAll_runOn built (by rw [hu.working]; exact List.not_mem_nil)
  rw [store, granted] at written
  rcases pushed : (Client.putAll ps b overwrite).runOn c with ⟨answer, t⟩
  rw [pushed] at written
  obtain ⟨answered, left, -⟩ := written
  cases answered
  exact ⟨_, t, rfl, left⟩

end

/-- Take a store that was empty once and was changed by portable requests and by deletions. What lies
under some plain paths there can be read as a document, in which secret values are ciphertext under
keys chosen by any rules. The document can be read again and resolved without asking, and pushed into
an empty store, which then mirrors the first one under these paths. -/
theorem push_of_snapshot {s₀ : Store} (empty : s₀.history = .empty) {changes : List Store.Change}
    (portable : ∀ q, .put q ∈ changes → Portable q) {paths : List String}
    (plain : ∀ path ∈ paths, IsPlain path.toList) {c : Client} (working : c.backend.failing = [])
    (source : c.backend.store = s₀.changed changes)
    (free : ∀ rule ∈ c.rules, ∀ key, rule.keyId = some key → Cipher.separator ∉ key.toList)
    {o : LoadOptions} (nameOnly : o.varsInNameOnly = true) {region account : String} {c' : Client}
    (new : Client.Faithful region account c') (target : c'.backend.store.history = .empty)
    (b : Bindings) (echo : Option Bool) (prompter : Prompter) (overwrite : Bool) :
    ∃ document t d r n t',
      (Client.snapshot paths b).runOn c = (.ok document, t) ∧
      ofTree o (.map document) = .ok d ∧
      (d.resolve false echo).runOn prompter = (.ok r, prompter) ∧
      (Client.putAll r.list r.bindings overwrite).runOn c' = (.ok n, t') ∧
      t'.backend.store.Mirrors (s₀.changed changes) paths := by
  have kept : Store.Kept Portable (s₀.changed changes) := Store.kept_changed empty portable
  -- what is portable in a request is left in the latest version of its name
  have again : ∀ name r, (s₀.changed changes).latest? name = some r →
      Portable (Client.again overwrite r) := by
    intro name r hr
    obtain ⟨q, version, tick, hq, -, -, rfl⟩ := kept.latest hr
    exact ⟨hq.keyed, hq.keyFree, hq.unreserved, hq.plain⟩
  have keyed : ∀ name r, (s₀.changed changes).latest? name = some r → Client.Keyed r :=
    fun name r hr hk => (again name r hr).keyed.trans hk
  have unreserved : ∀ name r, (s₀.changed changes).latest? name = some r →
      isReserved name = false := by
    intro name r hr
    obtain rfl := kept.latest_name hr
    exact (again r.name r hr).unreserved
  obtain ⟨rs, mem, nodup, yields⟩ := Client.yields_snapshot c.rules kept keyed unreserved paths b
  obtain ⟨t, snapshot, -⟩ := yields.runOn ⟨working, source, rfl⟩
  have read : ∀ r ∈ rs, Portable (Client.again overwrite r) :=
    fun r hr => again r.name r ((Store.mem_underAny kept).1 ((mem r).1 hr)).1
  obtain ⟨d, tree, resolved, list⟩ := reload_written read nameOnly nodup plain echo prompter
  obtain ⟨granted, mirrors⟩ := Store.mirrors_putEach kept target mem nodup overwrite
  obtain ⟨n, t', pushed, left⟩ := putAll_entries read free list new .empty granted
  exact ⟨_, t, d, d.bound .empty, n, t', snapshot, tree, resolved, pushed, left ▸ mirrors⟩

/-- A list, a secret that is written twice, and a parameter that is deleted again. -/
def sampleChanges : List Store.Change := [
  .put { name := "/svc/hosts", kind := .stringList, value := "a,b" },
  .put { name := "/svc/db/pass", kind := .secureString, value := "old", keyId := "alias/svc" },
  .put {
    name := "/svc/db/pass", kind := .secureString, value := "$(x)", keyId := "alias/svc"
    description := "secret", overwrite := true },
  .put { name := "/else", kind := .string, value := "1" },
  .delete ["/else"]]

theorem portable_sampleChanges : ∀ q, .put q ∈ sampleChanges → Portable q := by
  intro q hq
  simp only [sampleChanges, List.mem_cons, Store.Change.put.injEq, reduceCtorEq, or_false,
    List.not_mem_nil] at hq
  rcases hq with rfl | rfl | rfl | rfl <;>
    exact ⟨rfl, by decide, rfl, by decide +kernel⟩

/-- They are read page by page under two paths that overlap, the secret under another key. -/
theorem push_of_snapshot_overlapping :
    ∃ s document t d r n t',
      s = (({} : Store).withPageSize 1).changed sampleChanges ∧
      (Client.snapshot ["/svc", "/svc/db/"] .empty).runOn
        { backend := { store := s }, rules := [⟨some "/svc/db", some "alias/backup"⟩] } =
          (.ok document, t) ∧
      ofTree { varsInNameOnly := true } (.map document) = .ok d ∧
      (d.resolve false none).runOn {} = (.ok r, {}) ∧
      (Client.putAll r.list r.bindings false).runOn {} = (.ok n, t') ∧
      t'.backend.store.Mirrors s ["/svc", "/svc/db/"] ∧
      t'.backend.store.names = ["/svc/db/pass", "/svc/hosts"] ∧
      (∃ r, t'.backend.store.latest? "/svc/db/pass" = some r ∧ r.kind = .secureString ∧
        r.value = "$(x)" ∧ r.keyId = some "alias/svc" ∧ r.description = some "secret") ∧
      ∃ r, t'.backend.store.latest? "/svc/hosts" = some r ∧ r.kind = .stringList ∧
        r.value = "a,b" ∧ r.keyId = none ∧ r.description = none := by
  have new : Client.Faithful "us-east-1" "000000000000" {} :=
    Client.faithful_new {} rfl rfl rfl rfl
  obtain ⟨s, source⟩ : ∃ s, s = (({} : Store).withPageSize 1).changed sampleChanges := ⟨_, rfl⟩
  have plain : ∀ path ∈ ["/svc", "/svc/db/"], IsPlain path.toList := by decide +kernel
  have free : ∀ rule ∈ [(⟨some "/svc/db", some "alias/backup"⟩ : Rule)],
      ∀ key, rule.keyId = some key → Cipher.separator ∉ key.toList := by decide
  have nameOnly : ({ varsInNameOnly := true } : LoadOptions).varsInNameOnly = true := rfl
  obtain ⟨document, t, d, r, n, t', snapshot, tree, resolved, pushed, mirrors⟩ :=
    push_of_snapshot rfl portable_sampleChanges plain (c := { backend := { store := s }, rules := _ })
      rfl source free nameOnly new rfl .empty none {} false
  rw [← source] at mirrors
  have below : ∀ name ∈ ["/svc/db/pass", "/svc/hosts"],
      ∃ path ∈ ["/svc", "/svc/db/"], Store.Below path true name := by
    simp only [← Store.isUnder_iff]
    decide +kernel
  have stored : s.names = ["/svc/db/pass", "/svc/hosts"] := by
    rw [source]
    decide +kernel
  have names : t'.backend.store.names = ["/svc/db/pass", "/svc/hosts"] := by
    refine t'.backend.store.history.names_sorted.eq_of_mem_iff (by decide) fun name => ?_
    show name ∈ t'.backend.store.names ↔ _
    rw [mirrors.names, stored]
    exact and_iff_left_of_imp (below name)
  refine ⟨s, document, t, d, r, n, t', source, snapshot, tree, resolved, pushed, mirrors, names, ?_, ?_⟩
  · obtain ⟨p, p', first, latest, alike⟩ := mirrors.latest "/svc/db/pass" (by simp [names])
    rw [source] at first
    cases first
    exact ⟨p', latest, alike.kind, alike.value, alike.keyId, alike.description⟩
  · obtain ⟨p, p', first, latest, alike⟩ := mirrors.latest "/svc/hosts" (by simp [names])
    rw [source] at first
    cases first
    exact ⟨p', latest, alike.kind, alike.value, alike.keyId, alike.description⟩

end Document

end ParamFile
