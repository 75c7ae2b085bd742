import ParamFile.Client.Write
import ParamFile.Proofs.Action
import ParamFile.Proofs.History

/-!
# Deleting names

What deleting some names does is said without calls by `Store.remove`, which takes the names one behind
the other. Parting the names makes no difference (`remove_append`), and each stored name among them is
counted once, however often it is listed (`length_remove`). So a client that deletes in batches is
left without the names (`Client.without`), and answers how many of them were stored
(`Client.deleteNames_eq`).
-/

namespace ParamFile

open ParamFile.Action

/-! ## Stores -/

namespace Store

theorem mem_names_erase {history : NameMap (List Record)} {name other : String} :
    other ∈ (history.erase name).names ↔ other ∈ history.names ∧ other ≠ name := by
  rw [NameMap.mem_names, NameMap.mem_names, NameMap.get?_erase]
  by_cases same : other = name <;> simp [same]

theorem nodup_names (history : NameMap (List Record)) : history.names.Nodup :=
  history.names_sorted.imp fun lt => String.ne_of_lt lt

theorem remove_cons (name : String) (rest : List String) (history : NameMap (List Record)) :
    remove (name :: rest) history =
      (if history.contains name then (remove rest (history.erase name)).1
        else name :: (remove rest (history.erase name)).1,
      (remove rest (history.erase name)).2) := rfl

theorem remove_append (front back : List String) (history : NameMap (List Record)) :
    remove (front ++ back) history =
      ((remove front history).1 ++ (remove back (remove front history).2).1,
        (remove back (remove front history).2).2) := by
  induction front generalizing history with
  | nil => rfl
  | cons name front ih =>
    rw [List.cons_append, remove_cons, remove_cons, ih]
    split <;> rfl

/-- The stored names among some names, each of them once. -/
def listed (history : NameMap (List Record)) (names : List String) : List String :=
  history.names.filter fun name => names.contains name

theorem mem_listed {history : NameMap (List Record)} {names : List String} {name : String} :
    name ∈ listed history names ↔ name ∈ history.names ∧ name ∈ names := by
  rw [listed, List.mem_filter, List.contains_iff_mem]

theorem nodup_listed (history : NameMap (List Record)) (names : List String) :
    (listed history names).Nodup :=
  (nodup_names history).filter _

/-- One more name counts if it is stored, and is gone for the others. -/
theorem length_listed_cons (name : String) (rest : List String) (history : NameMap (List Record)) :
    (listed history (name :: rest)).length =
      (listed (history.erase name) rest).length + if history.contains name then 1 else 0 := by
  -- either side has each name once, so that it is enough to compare their members
  have nodup := nodup_listed history (name :: rest)
  have nodup' := nodup_listed (history.erase name) rest
  by_cases stored : name ∈ history.names
  · have there : history.contains name = true := NameMap.mem_names.1 stored
    have gone : name ∉ listed (history.erase name) rest := fun mem =>
      (mem_names_erase.1 (mem_listed.1 mem).1).2 rfl
    have perm : (listed history (name :: rest)).Perm (name :: listed (history.erase name) rest) := by
      refine (List.perm_ext_iff_of_nodup nodup (List.nodup_cons.2 ⟨gone, nodup'⟩)).2 fun other => ?_
      rw [List.mem_cons, mem_listed, mem_listed, mem_names_erase, List.mem_cons]
      by_cases same : other = name
      · simp [same, stored]
      · simp [same]
    rw [perm.length_eq, List.length_cons, there]
    rfl
  · have absent : history.contains name = false := by
      rw [Bool.eq_false_iff]
      exact fun there => stored (NameMap.mem_names.2 there)
    have perm : (listed history (name :: rest)).Perm (listed (history.erase name) rest) := by
      refine (List.perm_ext_iff_of_nodup nodup nodup').2 fun other => ?_
      rw [mem_listed, mem_listed, mem_names_erase, List.mem_cons]
      by_cases same : other = name
      · simp [same, stored]
      · simp [same]
    rw [perm.length_eq, absent]
    rfl

/-- Every name is stored when its turn comes, or it is answered. -/
theorem length_remove (names : List String) (history : NameMap (List Record)) :
    (remove names history).1.length + (listed history names).length = names.length := by
  induction names generalizing history with
  | nil => simp [remove, listed]
  | cons name rest ih =>
    have later := ih (history.erase name)
    rw [remove_cons, length_listed_cons, List.length_cons]
    dsimp only
    split
    · omega
    · rw [List.length_cons]
      omega

/-- What is stored of more names was stored of the first ones, or is stored when they are gone. -/
theorem length_listed_append (front back : List String) (history : NameMap (List Record)) :
    (listed history (front ++ back)).length =
      (listed history front).length + (listed (remove front history).2 back).length := by
  have whole := length_remove (front ++ back) history
  have first := length_remove front history
  have second := length_remove back (remove front history).2
  rw [remove_append, List.length_append, List.length_append] at whole
  omega

/-- Names that are stored are all counted. -/
theorem length_listed_of_stored {history : NameMap (List Record)} {names : List String}
    (nodup : names.Nodup) (stored : ∀ name ∈ names, name ∈ history.names) :
    (listed history names).length = names.length := by
  refine ((List.perm_ext_iff_of_nodup (nodup_listed history names) nodup).2 ?_).length_eq
  intro name
  rw [mem_listed]
  exact ⟨And.right, fun mem => ⟨stored name mem, mem⟩⟩

end Store

/-! ## Clients -/

namespace Client

/-- The client behind the deletion of some batches. -/
def without (c : Client) (parts : List (List String)) : Client :=
  { c with
    backend := { c.backend with
      store := { c.backend.store with
        history := (Store.remove parts.flatten c.backend.store.history).2
        deletes := parts.reverse ++ c.backend.store.deletes }
      log := List.replicate parts.length .delete ++ c.backend.log } }

theorem deleteBatch_eq {c : Client} (working : .delete ∉ c.backend.failing) {batch : List String}
    (few : batch.length ≤ greatestBatch) :
    (deleteBatch batch).runOn c =
      (.ok (Store.listed c.backend.store.history batch).length, c.without [batch]) := by
  have granted : c.backend.store.delete batch =
      (.ok (Store.remove batch c.backend.store.history).1,
        { c.backend.store with
          history := (Store.remove batch c.backend.store.history).2
          deletes := batch :: c.backend.store.deletes }) := by
    have : ¬greatestBatch < batch.length := by omega
    simp only [Store.delete, Store.checkBatch, if_neg this]
  have answered := Store.length_remove batch c.backend.store.history
  have called : (call .delete none fun s => s.delete batch).runOn c =
      (.ok (Store.remove batch c.backend.store.history).1, c.without [batch]) := by
    simp only [call, runOn_mk]
    rw [Backend.call_of_not_failing working, granted]
    simp only [without, List.flatten_singleton]
    rfl
  rw [deleteBatch, runOn_bind, called]
  dsimp only
  rw [runOn_pure]
  congr 2
  omega

theorem without_cons (c : Client) (batch : List String) (rest : List (List String)) :
    (c.without [batch]).without rest = c.without (batch :: rest) := by
  simp only [without, List.flatten_cons, Store.remove_append, List.reverse_cons, List.append_assoc,
    List.length_cons, List.replicate_succ']
  rfl

theorem deleteBatches_eq {c : Client} (working : .delete ∉ c.backend.failing)
    {parts : List (List String)} (few : ∀ batch ∈ parts, batch.length ≤ greatestBatch) :
    (deleteBatches parts).runOn c =
      (.ok (Store.listed c.backend.store.history parts.flatten).length, c.without parts) := by
  induction parts generalizing c with
  | nil =>
    have none : Store.listed c.backend.store.history [] = [] := by simp [Store.listed]
    rw [List.flatten_nil, none]
    rfl
  | cons batch rest ih =>
    have first := deleteBatch_eq working (few batch List.mem_cons_self)
    have later := ih (c := c.without [batch]) working fun b hb => few b (List.mem_cons_of_mem _ hb)
    have left : (c.without [batch]).backend.store.history =
        (Store.remove batch c.backend.store.history).2 := by
      simp only [without, List.flatten_singleton]
    rw [deleteBatches, runOn_bind, first]
    dsimp only
    rw [runOn_bind, later, without_cons, left, List.flatten_cons, Store.length_listed_append]
    rfl

theorem deleteNames_eq {c : Client} (working : .delete ∉ c.backend.failing) (names : List String) :
    (deleteNames names).runOn c =
      (.ok (Store.listed c.backend.store.history names).length,
        c.without (batches c.batchSize names)) := by
  have few : ∀ batch ∈ batches c.batchSize names, batch.length ≤ greatestBatch :=
    fun batch hb => Nat.le_trans (length_le_of_mem_batches c.batchSize_pos hb) c.batchSize_le
  have deleted := deleteBatches_eq working few
  rwa [flatten_batches] at deleted

end Client

end ParamFile
