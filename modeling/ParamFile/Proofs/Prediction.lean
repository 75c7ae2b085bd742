import ParamFile.Proofs.Comparison
import ParamFile.Proofs.Pushing

/-!
# What a comparison says about a push

A comparison of a document with the store (`Client.comparison`) names what should be stored afterwards
(`Diff.Predicts`). A push that flushes stores what its enabled parameters are called and leaves what lies
under none of the paths (`names_of_push`). The comparison counts disabled parameters, too, so it is right
if no parameter is disabled, and otherwise it may promise more than is stored (`comparison_of_push`,
`comparison_of_disabled`).
-/

namespace ParamFile

open ParamFile.Action

/-! ## Names that are read -/

/-- Some parameter that is not disabled has this name. -/
def Resolved.Writes (r : Resolved) (c : Client) (name : String) : Prop :=
  ∃ p ∈ r.list, ((p.readDisabled r.bindings).runOn c).1 = .ok false ∧
    ((p.readName r.bindings).runOn c).1 = .ok name

section
variable {region account : String} {c t : Client} {r : Resolved}

theorem mem_readNames (faithful : Client.Faithful region account c) {names : List String}
    (read : r.readNames.runOn c = (.ok names, t)) {name : String} :
    name ∈ names ↔ ∃ p ∈ r.list, ((p.readName r.bindings).runOn c).1 = .ok name := by
  have hJ : Judgement (Steady (Client.Faithful region account)) := steady_judgement
  have each : Meets (Client.Faithful region account) r.readNames
      (List.Forall₂ (fun p n =>
        Yields (Client.Faithful region account) (p.readName r.bindings) (.ok n)) r.list)
      (fun _ => True) :=
    .mapM fun p _ => (hJ.readName (steady_answers p.variableNames)).meets
  -- one name for each parameter, in their order
  have all := each.ok faithful read
  clear read
  generalize r.list = ps at all ⊢
  induction all with
  | nil => simp
  | @cons p n ps ns hp _ ih =>
    have own : ((p.readName r.bindings).runOn c).1 = .ok name ↔ name = n := by
      rw [(hp c faithful).1, Except.ok.injEq, eq_comm]
    simp only [List.mem_cons, ih, or_and_right, exists_or, exists_eq_left, own]

theorem mem_names_requests {c' : Client} {overwrite : Bool}
    (faithful : Client.Faithful region account c) (faithful' : Client.Faithful region account c')
    {rs : List PutRequest}
    (built : (Client.requests r.bindings overwrite r.list).runOn c' = (.ok rs, t))
    {name : String} : name ∈ rs.map (·.name) ↔ r.Writes c name := by
  obtain ⟨os, all, rfl⟩ := (meets_requests overwrite r.list).ok faithful' built
  clear built
  unfold Resolved.Writes
  generalize r.list = ps at all ⊢
  induction all with
  | nil => simp
  | @cons p o ps os hp _ ih =>
    cases o with
    | none =>
      -- a disabled parameter has a name, but no request bears it
      have disabled : Yields (Client.Faithful region account) (p.readDisabled r.bindings)
          (.ok true) := hp
      have own : ((p.readDisabled r.bindings).runOn c).1 ≠ .ok false := by
        rw [(disabled c faithful).1]
        simp
      have skipped : (none :: os).filterMap id = os.filterMap id := rfl
      rw [skipped, ih]
      simp only [List.mem_cons, or_and_right, exists_or, exists_eq_left, own, false_and, false_or]
    | some q =>
      have requested : Requested region account r.bindings p q := hp
      have enabled := (requested.enabled c faithful).1
      have own : ((p.readName r.bindings).runOn c).1 = .ok name ↔ name = q.name := by
        rw [(requested.name c faithful).1, Except.ok.injEq, eq_comm]
      have built : (some q :: os).filterMap id = q :: os.filterMap id := rfl
      rw [built, List.map_cons, List.mem_cons, ih]
      simp only [List.mem_cons, or_and_right, exists_or, exists_eq_left, enabled, true_and, own]

end

/-! ## Pushes -/

namespace Client

/-- What is compared for a document. -/
def comparison (r : Resolved) : ClientM Diff := do
  let paths ← r.readFlushPaths
  let names ← r.readNames
  diffPaths paths names

end Client

namespace Command.Session

def showNames (sign : String) (names : NameSet) : Action Session Unit :=
  names.names.forM fun name => onWorld (World.printLine .output (sign ++ " " ++ name))

def showDiff (d : Diff) : Action Session Unit := do
  showNames "+" d.add
  showNames "~" d.overwrite
  showNames "-" d.remove
  onWorld (World.printLine .errors (toString d.add.size ++ " to add, " ++
    toString d.overwrite.size ++ " to overwrite, " ++ toString d.remove.size ++ " to remove"))

theorem onClient_bind {α β : Type} (a : ClientM α) (f : α → ClientM β) :
    onClient (a >>= f) = onClient a >>= fun x => onClient (f x) := by
  funext s
  have left : (onClient (a >>= f)).runOn s =
      (((a >>= f).runOn s.client).1, { s with client := ((a >>= f).runOn s.client).2 }) := rfl
  have right : (onClient a).runOn s =
      ((a.runOn s.client).1, { s with client := (a.runOn s.client).2 }) := rfl
  show (onClient (a >>= f)).runOn s = (onClient a >>= fun x => onClient (f x)).runOn s
  rw [left, runOn_bind, runOn_bind, right]
  rcases a.runOn s.client with ⟨e | x, c⟩ <;> rfl

theorem diff_eq (r : Resolved) : diff r = onClient (Client.comparison r) >>= showDiff := by
  unfold Client.comparison
  simp only [onClient_bind, bind_assoc]
  rfl

end Command.Session

namespace Client

variable {region account : String} {c t : Client} {r : Resolved} {overwrite : Bool}
  {Q : PutRequest → Prop}

/-- A comparison of a document is one of what is read of it. -/
theorem comparison_ok (faithful : Faithful region account c) (kept : Store.Kept Q c.backend.store)
    {d : Diff} (compared : (comparison r).runOn c = (.ok d, t)) :
    ∃ paths names c' u, r.readFlushPaths.runOn c = (.ok paths, c') ∧
      r.readNames.runOn c = (.ok names, u) ∧
      d.Completes c.backend.store (.ofList names) paths := by
  obtain ⟨paths, c', read, compared⟩ := runOn_bind_ok compared
  obtain ⟨names, u, named, compared⟩ := runOn_bind_ok compared
  obtain ⟨-, faithful'⟩ := (steady_readFlushPaths r).yields_ok faithful read
  obtain ⟨answer, faithful''⟩ := (steady_readNames r).yields_ok faithful' named
  obtain ⟨u', named', -⟩ := answer.runOn faithful
  have store : u.backend.store = c.backend.store := by
    have first := keeps_store_readFlushPaths r c
    have second := keeps_store_readNames r c'
    rw [read] at first
    rw [named] at second
    exact second.trans first
  obtain ⟨d', yields, completes⟩ := yields_diffPaths kept u.rules paths names
  obtain ⟨t', run, -⟩ := yields.runOn ⟨faithful''.working, store, rfl⟩
  rw [compared] at run
  cases run
  exact ⟨paths, names, c', u', read, named', completes⟩

/-- A push that flushes stores the names of its enabled parameters, and leaves what lies under none of the
paths. -/
theorem names_of_push (faithful : Faithful region account c)
    (kept : Store.Kept Q c.backend.store)
    (pushed : (push r overwrite true).runOn c = (.ok (), t)) :
    ∃ paths c', r.readFlushPaths.runOn c = (.ok paths, c') ∧
      ∀ name, name ∈ t.backend.store.names ↔ r.Writes c name ∨
        name ∈ c.backend.store.names ∧ ¬c.backend.store.Lists paths name := by
  have whole := pushed
  have parts : push r overwrite true =
      r.readFlushPaths >>= fun paths => flushPaths paths >>= fun _ => push r overwrite false := rfl
  rw [parts] at whole
  obtain ⟨paths, c', read, -⟩ := runOn_bind_ok whole
  obtain ⟨-, faithful'⟩ := (steady_readFlushPaths r).yields_ok faithful read
  have store : c'.backend.store = c.backend.store := by
    have first := keeps_store_readFlushPaths r c
    rwa [read] at first
  obtain ⟨u, flushed, drops⟩ := flushPaths_runOn faithful'.working (store ▸ kept) paths
  have faithful'' := drops.faithful faithful'
  rw [push_runOn_flushed read flushed, push_runOn] at pushed
  rcases written : (putAll r.list r.bindings overwrite).runOn u with ⟨e | n, t'⟩
  · rw [written] at pushed
    cases pushed
  rw [written] at pushed
  cases pushed
  obtain ⟨rs, v, built, granted⟩ := putAll_ok faithful'' written
  refine ⟨paths, c', read, fun name => ?_⟩
  have stored : name ∈ u.backend.store.names ↔
      name ∈ c.backend.store.names ∧ ¬c.backend.store.Lists paths name := by
    rw [drops.store.mem_names, store, ← Bool.not_eq_true, List.any_eq_true]
    exact and_congr_right fun there => not_congr
      ⟨fun ⟨path, hp, below⟩ => ⟨there, path, hp, below⟩, fun ⟨_, listed⟩ => listed⟩
  show name ∈ t'.backend.store.names ↔ _
  rw [Store.mem_names_putEach granted, stored, mem_names_requests faithful faithful'' built]

end Client

namespace Command.Session

/-- Take a store that was empty once and was changed by puts and deletions, and a push that flushes the
paths of its document and succeeds. What is stored then are the names of the enabled parameters and
what is neither overwritten nor removed according to the comparison of the document with the store
before. So the comparison predicts all that is stored, and if no parameter is disabled no more than
that. -/
theorem comparison_of_push {region account : String} {s t : Session}
    (faithful : Client.Faithful region account s.client) {s₀ : Store} (empty : s₀.history = .empty)
    {changes : List Store.Change} (store : s.client.backend.store = s₀.changed changes)
    {r : Resolved} {overwrite : Bool} (pushed : (push r overwrite true).runOn s = (.ok (), t))
    {d : Diff} {u : Client} (compared : (Client.comparison r).runOn s.client = (.ok d, u)) :
    (∀ name, name ∈ t.client.backend.store.names ↔ r.Writes s.client name ∨
      name ∈ (s₀.changed changes).names ∧ name ∉ d.overwrite.names ∧ name ∉ d.remove.names) ∧
    (∀ name, name ∈ t.client.backend.store.names → d.Predicts (s₀.changed changes) name) ∧
    ((∀ p ∈ r.list, ((p.readDisabled r.bindings).runOn s.client).1 = .ok false) →
      ∀ name, name ∈ t.client.backend.store.names ↔ d.Predicts (s₀.changed changes) name) := by
  have kept : Store.Kept (fun _ => True) s.client.backend.store :=
    store ▸ Store.kept_changed empty fun _ _ => trivial
  have run : (Client.push r overwrite true).runOn s.client = (.ok (), t.client) := by
    obtain ⟨ends, leaves⟩ := does_push r overwrite true s
    rw [pushed] at ends leaves
    exact Prod.ext ends.symm leaves.symm
  obtain ⟨paths, c, read, stored⟩ := Client.names_of_push faithful kept run
  obtain ⟨paths', names, c', u', read', named, completes⟩ :=
    Client.comparison_ok faithful kept compared
  rw [read] at read'
  cases read'
  rw [store] at stored completes
  have listed : ∀ name, name ∈ (NameSet.ofList names).names ↔
      ∃ p ∈ r.list, ((p.readName r.bindings).runOn s.client).1 = .ok name :=
    fun name => NameSet.mem_names_ofList.trans (mem_readNames faithful named)
  have writes : ∀ name, r.Writes s.client name → name ∈ (NameSet.ofList names).names := by
    rintro name ⟨p, hp, -, bears⟩
    exact (listed name).2 ⟨p, hp, bears⟩
  refine ⟨fun name => ?_, fun name there => ?_, fun enabled name => ?_⟩
  · rw [stored, completes.not_lists]
  · exact completes.predicts.2 (((stored name).1 there).imp_left (writes name))
  · have bears : name ∈ (NameSet.ofList names).names → r.Writes s.client name := by
      intro there
      obtain ⟨p, hp, bears⟩ := (listed name).1 there
      exact ⟨p, hp, enabled p hp, bears⟩
    rw [stored, completes.predicts]
    exact or_congr_left ⟨writes name, bears⟩

/-- Paths that overlap, a value that is stored under them and one that is new. -/
def overlapping : Yaml.Mapping := [
  (.string ".FLUSH", .seq [.string "/app", .string "/app/db"]),
  (.string "/app/db", .string "z"),
  (.string "/new", .string "y")]

/-- What is stored after a push that flushes them is what was predicted. -/
theorem comparison_of_push_overlapping :
    ∃ d compared u t, Document.ofTree {} (.map overlapping) = .ok d ∧
      (Client.comparison (d.bound .empty)).runOn (.holding Client.twoChanges) =
        (.ok compared, u) ∧
      (push (d.bound .empty) true true).runOn ⟨{}, .holding Client.twoChanges⟩ = (.ok (), t) ∧
      ∀ name, name ∈ t.client.backend.store.names ↔
        compared.Predicts (({} : Store).changed Client.twoChanges) name := by
  have loaded : ∃ d, Document.ofTree {} (.map overlapping) = .ok d ∧
      ((Client.comparison (d.bound .empty)).runOn (.holding Client.twoChanges)).1.isOk = true ∧
      ((push (d.bound .empty) true true).runOn
        ⟨{}, .holding Client.twoChanges⟩).1.isOk = true ∧
      ∀ p ∈ (d.bound .empty).list,
        ((p.readDisabled .empty).runOn (.holding Client.twoChanges)).1 = .ok false :=
    ⟨_, rfl, by decide +kernel, by decide +kernel, by decide +kernel⟩
  obtain ⟨d, hd, hcompared, hpushed, enabled⟩ := loaded
  obtain ⟨compared, u, hcompared⟩ := exists_of_isOk hcompared
  obtain ⟨_, t, hpushed⟩ := exists_of_isOk hpushed
  have new := Client.faithful_new (.holding Client.twoChanges) rfl rfl rfl rfl
  have empty : ({} : Store).history = .empty := rfl
  have predicted := (comparison_of_push (s := ⟨{}, .holding Client.twoChanges⟩) new empty rfl
    (r := d.bound .empty) hpushed hcompared).2.2 enabled
  exact ⟨d, compared, u, t, hd, hcompared, hpushed, predicted⟩

def disabledOnly : Yaml.Mapping := [
  (.string "/app/a", .map [(.string "Value", .string "x"), (.string "Disable", .bool true)])]

/-- A disabled parameter is to be added according to the comparison, and is not written. -/
theorem comparison_of_disabled :
    (Document.ofTree {} (.map disabledOnly)).map (fun d =>
      let pushed := (push (d.bound .empty) false true).runOn ⟨{}, {}⟩
      let compared := (Client.comparison (d.bound .empty)).runOn {}
      (compared.1.map fun d => (d.add.names, d.overwrite.names, d.remove.names),
        pushed.1, pushed.2.client.backend.store.names)) =
      .ok (.ok (["/app/a"], [], []), .ok (), []) := by
  decide +kernel

end Command.Session

end ParamFile
