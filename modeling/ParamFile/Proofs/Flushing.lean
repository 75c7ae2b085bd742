import ParamFile.Document.Resolved
import ParamFile.Proofs.Listing
import ParamFile.Proofs.Removal

/-!
# Flushing paths

Deleting names takes them out of the store (`Store.Loses`) and leaves the client otherwise as it was, but
for its log (`Client.Drops`). The names under a path are listed before they are deleted, so flushing a
path takes out what lies under it (`deletePath_runOn`), and flushing several paths what lies under any
of them (`flushPaths_runOn`).
-/

namespace ParamFile

open ParamFile.Action

/-! ## Stores -/

namespace Store

/-- The names for which `gone` holds were taken out of a store; its other histories and what it answers
about itself are left alone. -/
structure Loses (s t : Store) (gone : String → Bool) : Prop where
  history : ∀ name, t.history.get? name = if gone name then none else s.history.get? name
  region : t.region = s.region
  account : t.account = s.account

variable {s t u : Store} {gone gone' : String → Bool}

theorem Loses.refl (s : Store) : s.Loses s fun _ => false := ⟨fun _ => rfl, rfl, rfl⟩

theorem Loses.trans (h : s.Loses t gone) (h' : t.Loses u gone') :
    s.Loses u fun name => gone name || gone' name := by
  refine ⟨fun name => ?_, h'.region.trans h.region, h'.account.trans h.account⟩
  rw [h'.history, h.history]
  cases gone name <;> cases gone' name <;> rfl

/-- Names that are not stored may be called gone or not. -/
theorem Loses.congr (h : s.Loses t gone)
    (same : ∀ name, name ∈ s.names → gone name = gone' name) : s.Loses t gone' := by
  refine ⟨fun name => ?_, h.region, h.account⟩
  rw [h.history]
  by_cases stored : name ∈ s.names
  · rw [same name stored]
  · have absent : s.history.get? name = none := by
      rw [← Option.not_isSome_iff_eq_none]
      exact fun there => stored (NameMap.mem_names.2 there)
    rw [absent, ite_self, ite_self]

theorem Loses.mem_names (h : s.Loses t gone) {name : String} :
    name ∈ t.names ↔ name ∈ s.names ∧ gone name = false := by
  unfold Store.names
  rw [NameMap.mem_names, NameMap.mem_names, h.history]
  cases gone name <;> simp

theorem Loses.kept {Q : PutRequest → Prop} (h : s.Loses t gone) (kept : Kept Q s) : Kept Q t := by
  intro name versions hv
  rw [h.history] at hv
  split at hv
  · cases hv
  · exact kept name versions hv

end Store

/-! ## Clients -/

namespace Client

def unlogged (c : Client) : Client := { c with backend := { c.backend with log := [] } }

/-- The store of the client lost these names, and but for its log the client is what it was. -/
structure Drops (c t : Client) (gone : String → Bool) : Prop where
  store : c.backend.store.Loses t.backend.store gone
  failing : t.backend.failing = c.backend.failing
  region : t.region = c.region
  account : t.account = c.account
  plaintexts : t.plaintexts = c.plaintexts

variable {c t u : Client} {gone gone' : String → Bool}

theorem Drops.refl (c : Client) : c.Drops c fun _ => false :=
  ⟨.refl _, rfl, rfl, rfl, rfl⟩

theorem Drops.trans (h : c.Drops t gone) (h' : t.Drops u gone') :
    c.Drops u fun name => gone name || gone' name where
  store := h.store.trans h'.store
  failing := h'.failing.trans h.failing
  region := h'.region.trans h.region
  account := h'.account.trans h.account
  plaintexts := h'.plaintexts.trans h.plaintexts

/-- What a client does next does not depend on its log. -/
theorem Drops.of_unlogged (same : u.unlogged = c.unlogged) (h : u.Drops t gone) :
    c.Drops t gone where
  store := by
    have store : u.backend.store = c.backend.store := congrArg (·.backend.store) same
    exact store ▸ h.store
  failing := h.failing.trans (congrArg (·.backend.failing) same)
  region := h.region.trans (congrArg (·.region) same)
  account := h.account.trans (congrArg (·.account) same)
  plaintexts := h.plaintexts.trans (congrArg (·.plaintexts) same)

theorem Drops.faithful {region account : String} (h : c.Drops t gone)
    (faithful : Faithful region account c) : Faithful region account t where
  working := h.failing.trans faithful.working
  region_eq := by rw [h.region, h.store.region, faithful.region_eq]
  account_eq := by rw [h.account, h.store.account, faithful.account_eq]
  honest := by
    rw [h.plaintexts]
    exact faithful.honest

/-! ## Deleting names -/

theorem drops_without (c : Client) (parts : List (List String)) :
    c.Drops (c.without parts) parts.flatten.contains where
  store := by
    refine ⟨fun name => ?_, rfl, rfl⟩
    have left := Store.get?_remove parts.flatten c.backend.store.history name
    by_cases listed : name ∈ parts.flatten
    · rw [if_pos listed] at left
      rw [if_pos (List.contains_iff_mem.2 listed)]
      exact left
    · rw [if_neg listed] at left
      rw [if_neg fun h => listed (List.contains_iff_mem.1 h)]
      exact left
  failing := rfl
  region := rfl
  account := rfl
  plaintexts := rfl

theorem deleteNames_runOn (working : c.backend.failing = []) (names : List String) :
    ∃ n t, (deleteNames names).runOn c = (.ok n, t) ∧ c.Drops t names.contains := by
  have granted : Call.delete ∉ c.backend.failing := by
    rw [working]
    exact List.not_mem_nil
  have drops := drops_without c (batches c.batchSize names)
  rw [flatten_batches] at drops
  exact ⟨_, _, deleteNames_eq granted names, drops⟩

/-! ## Flushing -/

theorem keeps_unlogged_query {α : Type} (call : Call) (f : Store → Except Failure α) :
    Keeps unlogged (query call f) := by
  intro c
  rw [query_runOn]
  rfl

theorem keeps_gather {α γ : Type} {f : Client → γ} {fetch : Nat → ClientM Page}
    {load : Record → ClientM α} (hf : ∀ start, Keeps f (fetch start))
    (hl : ∀ r, Keeps f (load r)) (fuel start : Nat) : Keeps f (gather fetch load fuel start) := by
  induction fuel generalizing start with
  | zero => exact .pure _
  | succ fuel ih =>
    rw [gather]
    refine (hf start).bind fun page => (Keeps.mapM hl page.records).bind fun loaded => ?_
    split
    · exact .pure _
    · exact (ih _).bind fun _ => .pure _

/-- Listing names leaves its traces in the log only. -/
theorem keeps_unlogged_getPath (path : String) (recursive : Bool) (filters : List Filter) :
    Keeps unlogged (getPath path { namesOnly := true, recursive, filters }) := by
  have pages : ∀ start, Keeps unlogged (fetchPath ⟨path, recursive, false, filters⟩ start) :=
    fun start => keeps_unlogged_query _ _
  have all : Keeps unlogged
      (gatherAll (fetchPath ⟨path, recursive, false, filters⟩) fun r => pure r.name) := by
    intro c
    exact keeps_gather pages (fun _ => .pure _) _ 0 c
  exact all.bind fun _ => .pure _

section
variable {Q : PutRequest → Prop}

theorem deletePath_runOn (working : c.backend.failing = []) (kept : Store.Kept Q c.backend.store)
    (path : String) :
    ∃ n t, (deletePath path true []).runOn c = (.ok n, t) ∧ c.Drops t (Store.isUnder path true) := by
  obtain ⟨u, found, -⟩ := (yields_getPath_names kept path).runOn ⟨working, rfl, rfl⟩
  have same : u.unlogged = c.unlogged := by
    have kept := keeps_unlogged_getPath path true [] c
    rwa [found] at kept
  have working' : u.backend.failing = [] :=
    (congrArg (·.backend.failing) same).trans working
  -- the names were listed before, so those that are deleted are those that lie under the path
  obtain ⟨n, t, deleted, drops⟩ := deleteNames_runOn working'
    (c.backend.store.names.filter (Store.isUnder path true))
  refine ⟨n, t, ?_, ?_⟩
  · rw [deletePath, runOn_bind, found]
    exact deleted
  · have drops := drops.of_unlogged same
    refine { drops with store := drops.store.congr fun name stored => ?_ }
    rw [Bool.eq_iff_iff, List.contains_iff_mem, List.mem_filter]
    exact ⟨And.right, fun below => ⟨stored, below⟩⟩

def flushPaths : List String → ClientM Unit
  | [] => return ()
  | path :: rest => do
    let _ ← deletePath path true []
    flushPaths rest

/-- Flushing some paths takes out what lies under any of them. -/
theorem flushPaths_runOn (working : c.backend.failing = []) (kept : Store.Kept Q c.backend.store)
    (paths : List String) :
    ∃ t, (flushPaths paths).runOn c = (.ok (), t) ∧
      c.Drops t fun name => paths.any fun path => Store.isUnder path true name := by
  induction paths generalizing c with
  | nil => exact ⟨c, rfl, .refl c⟩
  | cons path rest ih =>
    obtain ⟨n, u, here, first⟩ := deletePath_runOn working kept path
    obtain ⟨t, later, second⟩ := ih (first.failing.trans working) (first.store.kept kept)
    refine ⟨t, ?_, ?_⟩
    · rw [flushPaths, runOn_bind, here]
      exact later
    · exact first.trans second

end

end Client

end ParamFile
