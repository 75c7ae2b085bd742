import ParamFile.Command.Run
import ParamFile.Proofs.DryRun
import ParamFile.Proofs.Flushing

/-!
# Flushing before writing

Whatever it prints, a job does to its client what an action of the client does (`Session.Does`).
-/

namespace ParamFile

open ParamFile.Action

/-! ## Jobs and their clients -/

namespace Command.Session

/-- Whatever it prints, a job ends as the action of its client does, and leaves the client so. -/
def Does {α : Type} (a : Action Session α) (b : ClientM α) : Prop :=
  ∀ s : Session, (a.runOn s).1 = (b.runOn s.client).1 ∧
    (a.runOn s).2.client = (b.runOn s.client).2

section
variable {α β : Type}

theorem Does.pure (x : α) : Does (pure x) (pure x) := fun _ => ⟨rfl, rfl⟩

theorem Does.bind {a : Action Session α} {b : ClientM α} {f : α → Action Session β}
    {g : α → ClientM β} (ha : Does a b) (hf : ∀ x, Does (f x) (g x)) :
    Does (a >>= f) (b >>= g) := by
  intro s
  obtain ⟨ends, leaves⟩ := ha s
  rw [runOn_bind, runOn_bind]
  generalize a.runOn s = x at ends leaves ⊢
  generalize b.runOn s.client = y at ends leaves ⊢
  obtain ⟨r, t⟩ := x
  obtain ⟨r', c⟩ := y
  dsimp only at ends leaves
  subst ends leaves
  cases r with
  | error e => exact ⟨rfl, rfl⟩
  | ok x => exact hf x t

theorem Does.mapM {f : α → Action Session β} {g : α → ClientM β} (h : ∀ x, Does (f x) (g x))
    (l : List α) : Does (l.mapM f) (l.mapM g) := by
  induction l with
  | nil => exact .pure []
  | cons x l ih =>
    rw [List.mapM_cons, List.mapM_cons]
    exact (h x).bind fun y => ih.bind fun ys => .pure (y :: ys)

theorem does_onClient (a : ClientM α) : Does (onClient a) a := fun _ => ⟨rfl, rfl⟩

/-- Printing changes nothing for the client. -/
theorem Does.printing {a : Action Session α} {b : ClientM α} (h : Does a b)
    (channel : Channel) (text : String) :
    Does (onWorld (World.printLine channel text) >>= fun _ => a) b := fun s =>
  h { s with world := ((World.printLine channel text).runOn s.world).2 }

end

end Command.Session

namespace Client

def push (r : Resolved) (overwrite flushing : Bool) : ClientM Unit := do
  if flushing then flushPaths (← r.readFlushPaths)
  let _ ← putAll r.list r.bindings overwrite

end Client

namespace Command.Session

theorem does_flush (r : Resolved) :
    Does (flush r) (r.readFlushPaths >>= Client.flushPaths) := by
  unfold flush
  refine (does_onClient r.readFlushPaths).bind fun paths => ?_
  rw [bind_pure_unit]
  induction paths with
  | nil => exact .pure ()
  | cons path rest ih =>
    rw [List.forIn_cons, Client.flushPaths]
    simp only [bind_assoc, pure_bind]
    refine Does.printing ?_ .errors _
    exact (does_onClient _).bind fun _ => ih

theorem does_push (r : Resolved) (overwrite flushing : Bool) :
    Does (push r overwrite flushing) (Client.push r overwrite flushing) := by
  have written : Does
      (do
        onWorld (World.progress "Putting" "parameters")
        let written ← onClient (Client.putAll r.list r.bindings overwrite)
        onWorld (World.printLine .output
          (World.mark ++ toString written ++ " parameters written")))
      (Client.putAll r.list r.bindings overwrite >>= fun _ => Pure.pure ()) := by
    refine Does.printing ?_ .errors _
    refine (does_onClient _).bind fun n => ?_
    exact Does.printing (.pure ()) .output _
  unfold push Client.push
  cases flushing with
  | false => exact written
  | true =>
    have flushed := (does_flush r).bind fun _ => written
    rw [bind_assoc] at flushed
    exact flushed

end Command.Session

/-! ## What is read before anything is written -/

namespace Client

section
variable {region account : String} {b : Bindings}

theorem steady_requests (overwrite : Bool) (ps : List Parameter) :
    Steady (Faithful region account) (requests b overwrite ps) := by
  have hJ : Judgement (Steady (Faithful region account)) := steady_judgement
  exact hJ.requests (fun p _ => steady_answers p.variableNames) overwrite

theorem steady_readFlushPaths (r : Resolved) :
    Steady (Faithful region account) r.readFlushPaths := by
  have hJ : Judgement (Steady (Faithful region account)) := steady_judgement
  exact hJ.mapM fun path _ => hJ.resolve _ (steady_answers _)

theorem steady_readNames (r : Resolved) : Steady (Faithful region account) r.readNames := by
  have hJ : Judgement (Steady (Faithful region account)) := steady_judgement
  exact hJ.mapM fun p _ => hJ.readName (steady_answers p.variableNames)

end

theorem answers_store (b : Bindings) (names : List String) :
    Answers (Keeps fun c => c.backend.store) b names :=
  (keeps_judgement keeps_store_decrypt).answers Keeps.throw keeps_store_askRegion
    keeps_store_askAccount names

theorem keeps_store_readFlushPaths (r : Resolved) :
    Keeps (fun c => c.backend.store) r.readFlushPaths := by
  have hJ := keeps_judgement keeps_store_decrypt
  exact hJ.mapM fun path _ => hJ.resolve _ (answers_store _ _)

theorem keeps_store_readNames (r : Resolved) :
    Keeps (fun c => c.backend.store) r.readNames := by
  have hJ := keeps_judgement keeps_store_decrypt
  exact hJ.mapM fun p _ => hJ.readName (answers_store _ _)

/-- If the requests of a push cannot be built, nothing is written. -/
theorem putAll_of_unreadable {c : Client} {ps : List Parameter} {b : Bindings} {overwrite : Bool}
    {e : Error} (unreadable : ((requests b overwrite ps).runOn c).1 = .error e) :
    ((putAll ps b overwrite).runOn c).1 = .error e ∧
      ((putAll ps b overwrite).runOn c).2.backend.store = c.backend.store := by
  have kept := keeps_store_requests (b := b) overwrite ps c
  rw [putAll, runOn_bind]
  generalize (requests b overwrite ps).runOn c = run at unreadable kept ⊢
  obtain ⟨_, t⟩ := run
  cases unreadable
  exact ⟨rfl, kept⟩

theorem putAll_ok {region account : String} {c t : Client} {ps : List Parameter} {b : Bindings}
    {overwrite : Bool} {n : Nat} (faithful : Faithful region account c)
    (written : (putAll ps b overwrite).runOn c = (.ok n, t)) :
    ∃ rs u, (requests b overwrite ps).runOn c = (.ok rs, u) ∧
      Store.putEach rs c.backend.store = (.ok (), t.backend.store) := by
  obtain ⟨rs, u, built, -⟩ := runOn_bind_ok written
  obtain ⟨-, faithful'⟩ := (steady_requests overwrite ps).yields_ok faithful built
  have working : Call.put ∉ u.backend.failing := by
    rw [faithful'.working]
    exact List.not_mem_nil
  have same : u.backend.store = c.backend.store := by
    have kept := keeps_store_requests (b := b) overwrite ps c
    rwa [built] at kept
  obtain ⟨answer, left, -⟩ := putAll_runOn built working
  rw [written, same] at answer left
  refine ⟨rs, u, built, Prod.ext ?_ left.symm⟩
  cases granted : (Store.putEach rs c.backend.store).1 with
  | error f =>
    rw [granted] at answer
    cases answer
  | ok _ => rfl

theorem push_runOn (r : Resolved) (overwrite : Bool) (c : Client) :
    (push r overwrite false).runOn c =
      (((putAll r.list r.bindings overwrite).runOn c).1.map fun _ => (),
        ((putAll r.list r.bindings overwrite).runOn c).2) := by
  have written : push r overwrite false =
      putAll r.list r.bindings overwrite >>= fun _ => pure () := rfl
  rw [written, runOn_bind]
  rcases (putAll r.list r.bindings overwrite).runOn c with ⟨e | n, t⟩ <;> rfl

/-- With flushing, it is a push without from where the paths are flushed. -/
theorem push_runOn_flushed {r : Resolved} {overwrite : Bool} {c c' t : Client}
    {paths : List String} (read : r.readFlushPaths.runOn c = (.ok paths, c'))
    (flushed : (flushPaths paths).runOn c' = (.ok (), t)) :
    (push r overwrite true).runOn c = (push r overwrite false).runOn t := by
  have parts : push r overwrite true =
      r.readFlushPaths >>= fun paths => flushPaths paths >>= fun _ => push r overwrite false := rfl
  rw [parts, runOn_bind, read]
  dsimp only
  rw [runOn_bind, flushed]

end Client

/-! ## Pushes that fail early -/

namespace Command.Session

/-- Take a store that was empty once and was changed by puts and deletions, and a push of which some
parameter cannot be read. Without flushing it leaves the store alone. With flushing it takes out what
lies under the paths before it fails, and leaves the rest alone; if the paths cannot be read either, it
fails before that. -/
theorem push_of_unreadable {region account : String} {s : Session}
    (faithful : Client.Faithful region account s.client) {s₀ : Store} (empty : s₀.history = .empty)
    {changes : List Store.Change} (store : s.client.backend.store = s₀.changed changes)
    {r : Resolved} {overwrite : Bool} {e : Error}
    (unreadable : ((Client.requests r.bindings overwrite r.list).runOn s.client).1 = .error e) :
    (((push r overwrite false).runOn s).1 = .error e ∧
      ((push r overwrite false).runOn s).2.client.backend.store = s₀.changed changes) ∧
    (∀ paths, (r.readFlushPaths.runOn s.client).1 = .ok paths →
      ((push r overwrite true).runOn s).1 = .error e ∧
        ∀ name, ((push r overwrite true).runOn s).2.client.backend.store.history.get? name =
          if paths.any fun path => Store.isUnder path true name then none
          else (s₀.changed changes).history.get? name) ∧
    ∀ e', (r.readFlushPaths.runOn s.client).1 = .error e' →
      ((push r overwrite true).runOn s).1 = .error e' ∧
        ((push r overwrite true).runOn s).2.client.backend.store = s₀.changed changes := by
  have kept : Store.Kept (fun _ => True) (s₀.changed changes) :=
    Store.kept_changed empty fun _ _ => trivial
  have same := (Client.keeps_store_readFlushPaths r s.client).trans store
  have ends := fun flushing => (does_push r overwrite flushing s).1
  have leaves := fun flushing => (does_push r overwrite flushing s).2
  simp only [ends, leaves]
  refine ⟨?_, fun paths listed => ?_, fun e' unlisted => ?_⟩
  · obtain ⟨failed, unchanged⟩ := Client.putAll_of_unreadable unreadable
    rw [Client.push_runOn, failed]
    exact ⟨rfl, unchanged.trans store⟩
  · rcases read : r.readFlushPaths.runOn s.client with ⟨_, c⟩
    rw [read] at listed same
    cases listed
    have store' : c.backend.store = s₀.changed changes := same
    obtain ⟨-, faithful'⟩ := (Client.steady_readFlushPaths r).yields_ok faithful read
    obtain ⟨t, flushed, drops⟩ := Client.flushPaths_runOn faithful'.working (store' ▸ kept) paths
    -- what cannot be read before the paths are flushed cannot be read afterwards either
    have still : ((Client.requests r.bindings overwrite r.list).runOn t).1 = .error e :=
      ((Client.steady_requests overwrite r.list).yields faithful t (drops.faithful faithful')).1.trans
        unreadable
    obtain ⟨failed, unchanged⟩ := Client.putAll_of_unreadable still
    rw [Client.push_runOn_flushed read flushed, Client.push_runOn, failed]
    refine ⟨rfl, fun name => ?_⟩
    rw [unchanged, drops.store.history, store']
  · rcases read : r.readFlushPaths.runOn s.client with ⟨_, c⟩
    rw [read] at unlisted same
    cases unlisted
    have failed : (Client.push r overwrite true).runOn s.client = (.error e', c) := by
      unfold Client.push
      simp only [if_true]
      rw [runOn_bind, read]
    rw [failed]
    exact ⟨rfl, same⟩

def oldValues : List Store.Change := [
  .put { name := "/app/old", kind := .string, value := "x" },
  .put { name := "/else", kind := .string, value := "y" }]

/-- A parameter without a value under a path to flush. -/
def withoutValue : Yaml.Mapping := [
  (.string ".FLUSH", .string "/app"),
  (.string "/app/new", .map [(.string "Description", .string "no value")])]

/-- What is stored under the path is gone although nothing is written. -/
theorem push_of_unreadable_old :
    ∃ d t, Document.ofTree {} (.map withoutValue) = .ok d ∧
      (push (d.bound .empty) false true).runOn ⟨{}, Client.holding oldValues⟩ =
        (.error (.missingValue "/app/new"), t) ∧
      ∀ name, t.client.backend.store.history.get? name =
        if ["/app"].any fun path => Store.isUnder path true name then none
        else (({} : Store).changed oldValues).history.get? name := by
  have loaded : ∃ d, Document.ofTree {} (.map withoutValue) = .ok d ∧
      ((Client.requests .empty false (d.bound .empty).list).runOn (.holding oldValues)).1 =
        .error (.missingValue "/app/new") ∧
      ((d.bound .empty).readFlushPaths.runOn (.holding oldValues)).1 = .ok ["/app"] :=
    ⟨_, rfl, by decide +kernel, by decide +kernel⟩
  obtain ⟨d, hd, unreadable, listed⟩ := loaded
  have new := Client.faithful_new (.holding oldValues) rfl rfl rfl rfl
  have empty : ({} : Store).history = .empty := rfl
  obtain ⟨failed, left⟩ := (push_of_unreadable (s := ⟨{}, .holding oldValues⟩) new empty rfl
    (r := d.bound .empty) unreadable).2.1 ["/app"] listed
  exact ⟨d, _, hd, Prod.ext failed rfl, left⟩

/-- So a push that fails for a parameter that cannot be read may take out what was stored. -/
theorem push_of_unreadable_flushes :
    (Document.ofTree {} (.map withoutValue)).map (fun d =>
      let t := (push (d.bound .empty) false true).runOn ⟨{}, Client.holding oldValues⟩
      ((Client.holding oldValues).backend.store.names, t.1, t.2.client.backend.store.names)) =
        .ok (["/app/old", "/else"], .error (.missingValue "/app/new"), ["/else"]) := by
  decide +kernel

end Command.Session

end ParamFile
