import ParamFile.Client.Write
import ParamFile.Proofs.Client
import ParamFile.Proofs.History
import ParamFile.Proofs.Judgement

/-!
# What is written

Once its requests are built, a push puts them one behind the other (`Client.putAll_eq`), however they are
parted into batches. Where puts do not fail, this leaves the store as its requests do
(`Client.putAll_runOn`), and building them changes nothing (`Client.keeps_store_requests`).
-/

namespace ParamFile

open ParamFile.Action

/-! ## Puts on a backend -/

namespace Backend

/-- Puts some requests one behind the other, up to and including the first that fails; answers its name
with the reason. -/
def putEach : List PutRequest → Backend → Except (String × Failure) Unit × Backend
  | [], b => (.ok (), b)
  | r :: rest, b =>
    match b.call .put fun s => s.put r with
    | (.ok (), t) => putEach rest t
    | (.error f, t) => (.error (r.name, f), t)

theorem putEach_cons (b : Backend) (r : PutRequest) (rest : List PutRequest) :
    (∃ t, b.call .put (fun s => s.put r) = (.ok (), t) ∧ putEach (r :: rest) b = putEach rest t) ∨
    ∃ f t, b.call .put (fun s => s.put r) = (.error f, t) ∧
      putEach (r :: rest) b = (.error (r.name, f), t) := by
  rw [putEach]
  rcases b.call .put fun s => s.put r with ⟨f | _, t⟩
  · exact .inr ⟨f, t, rfl, rfl⟩
  · exact .inl ⟨t, rfl, rfl⟩

/-- A backend whose puts do not fail does to its store what the requests ask for. -/
theorem putEach_of_working {b : Backend} (working : Call.put ∉ b.failing) (rs : List PutRequest) :
    (putEach rs b).1 = (Store.putEach rs b.store).1 ∧
      (putEach rs b).2.store = (Store.putEach rs b.store).2 ∧
      (putEach rs b).2.failing = b.failing := by
  induction rs generalizing b with
  | nil => exact ⟨rfl, rfl, rfl⟩
  | cons r rest ih =>
    rw [putEach, Store.putEach, call_of_not_failing working]
    rcases b.store.put r with ⟨f | _, s⟩
    · exact ⟨rfl, rfl, rfl⟩
    · exact ih (b := { b with log := .put :: b.log, store := s }) working

end Backend

namespace Client

theorem keeps_store_requests {b : Bindings} (overwrite : Bool) (ps : List Parameter) :
    Keeps (fun c => c.backend.store) (requests b overwrite ps) := by
  have hJ := keeps_judgement keeps_store_decrypt
  exact hJ.requests (fun p _ => hJ.answers Keeps.throw keeps_store_askRegion
    keeps_store_askAccount _) overwrite

def refused (e : String × Failure) : Error := Error.ofFailure .put (some e.1) e.2

/-- The client ends with this answer and this store, and its calls fail as they did before. -/
def Leaves (c : Client) {α : Type} (run : Except Error α × Client) (r : Except Error α)
    (s : Store) : Prop :=
  run.1 = r ∧ run.2.backend.store = s ∧ run.2.backend.failing = c.backend.failing

/-- Requests are put one behind the other, up to the first that is refused. -/
theorem forM_put_eq (rs : List PutRequest) (c : Client) :
    (rs.forM put).runOn c = ((Backend.putEach rs c.backend).1.mapError refused,
      { c with backend := (Backend.putEach rs c.backend).2 }) := by
  induction rs generalizing c with
  | nil => rfl
  | cons r rest ih =>
    have here : (put r).runOn c =
        ((c.backend.call .put fun s => s.put r).1.mapError (Error.ofFailure .put (some r.name)),
          { c with backend := (c.backend.call .put fun s => s.put r).2 }) := rfl
    rw [List.forM_eq_forM, List.forM_cons, runOn_bind, here]
    rcases Backend.putEach_cons c.backend r rest with ⟨t, called, eq⟩ | ⟨f, t, called, eq⟩
    · rw [called, eq]
      exact ih { c with backend := t }
    · rw [called, eq]
      rfl

/-- It makes no difference how the requests are parted into batches. -/
theorem putBatches_eq (batches : List (List PutRequest)) :
    putBatches batches = batches.flatten.forM put := by
  unfold putBatches
  induction batches with
  | nil => rfl
  | cons batch rest ih =>
    simp only [List.forM_eq_forM] at ih ⊢
    rw [List.forM_cons, List.flatten_cons, List.forM_append, ih]

/-- What a push does once its requests are built, or as soon as one of them cannot be. -/
theorem putAll_eq (ps : List Parameter) (b : Bindings) (overwrite : Bool) (c : Client) :
    (putAll ps b overwrite).runOn c = match (requests b overwrite ps).runOn c with
      | (.ok rs, t) => (((Backend.putEach rs t.backend).1.mapError refused).map fun _ => rs.length,
          { t with backend := (Backend.putEach rs t.backend).2 })
      | (.error e, t) => (.error e, t) := by
  rw [putAll, runOn_bind]
  rcases (requests b overwrite ps).runOn c with ⟨e | rs, t⟩
  · rfl
  · dsimp only
    rw [runOn_bind, runOn_get]
    dsimp only
    rw [putBatches_eq, flatten_batches, runOn_bind, forM_put_eq]
    cases (Backend.putEach rs t.backend).1 <;> rfl

theorem putAll_runOn {c t : Client} {ps : List Parameter} {b : Bindings} {overwrite : Bool}
    {rs : List PutRequest} (built : (requests b overwrite ps).runOn c = (.ok rs, t))
    (working : Call.put ∉ t.backend.failing) :
    Leaves t ((putAll ps b overwrite).runOn c)
      (((Store.putEach rs t.backend.store).1.mapError refused).map fun _ => rs.length)
      (Store.putEach rs t.backend.store).2 := by
  obtain ⟨answer, store, failing⟩ := Backend.putEach_of_working working rs
  rw [putAll_eq, built, ← answer, ← store]
  exact ⟨rfl, rfl, failing⟩

end Client

end ParamFile
