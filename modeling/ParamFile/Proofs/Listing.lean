import ParamFile.Proofs.Finding

/-!
# Reading a store that can be read

Where every secret record has a key (`Client.Keyed`), a listing without filters is never an error: under
a path are the stored names there (`yields_getPath_names`), and their latest versions with secret values
as ciphertext under the keys that the rules choose (`resealed`, `yields_getPath_keyed`).
-/

namespace ParamFile

open ParamFile.Action

theorem Store.selected_unfiltered (s : Store) (path : String) (recursive : Bool) :
    s.selected path recursive [] = .ok (s.under path recursive) :=
  filterM_all (fun _ => rfl) _

namespace Client

/-! ## Records -/

/-- The ciphertext that the value of a record is replaced by when it is read. -/
def resealed (rules : List Rule) (r : Record) : Option String :=
  if r.kind.isSecure then (chosenKey rules r.name r.keyId).map (Cipher.sealed r.value) else none

/-- A secret record has a key of its own. -/
def Keyed (r : Record) : Prop := r.kind.isSecure = true → r.keyId.isSome = true

/-- The rules choose a key for a record that has one. -/
theorem exists_chosenKey (rules : List Rule) (name keyId : String) :
    ∃ key, chosenKey rules name (some keyId) = some key := by
  unfold chosenKey
  dsimp only
  generalize ((rules.find? (Rule.isFor name)).orElse fun _ =>
    rules.find? (·.namePrefix.isNone)).bind (·.keyId) = chosen
  cases chosen with
  | none => exact ⟨keyId, rfl⟩
  | some key => exact ⟨key, rfl⟩

theorem resealed_of_secure (rules : List Rule) {r : Record} (keyed : Keyed r)
    (hk : r.kind.isSecure = true) :
    ∃ key, chosenKey rules r.name r.keyId = some key ∧
      resealed rules r = some (Cipher.sealed r.value key) := by
  obtain ⟨own, ho⟩ := Option.isSome_iff_exists.1 (keyed hk)
  obtain ⟨key, hkey⟩ := exists_chosenKey rules r.name own
  rw [← ho] at hkey
  refine ⟨key, hkey, ?_⟩
  rw [resealed, hk, hkey]
  rfl

theorem resealed_of_plain (rules : List Rule) {r : Record} (hk : r.kind.isSecure = false) :
    resealed rules r = none := by
  rw [resealed, hk]
  rfl

/-- Exactly the secret values are read as ciphertext. -/
theorem isSome_resealed (rules : List Rule) {r : Record} (keyed : Keyed r) :
    (resealed rules r).isSome = r.kind.isSecure := by
  cases hk : r.kind.isSecure with
  | false => rw [resealed_of_plain rules hk]; rfl
  | true =>
    obtain ⟨key, -, eq⟩ := resealed_of_secure rules keyed hk
    rw [eq]
    rfl

theorem readRecord_of_keyed (rules : List Rule) {r : Record} (keyed : Keyed r) :
    readRecord rules true r = .ok (.ofRecord r (resealed rules r)) := by
  have same : Store.shown true r = r := by simp [Store.shown]
  rw [readRecord, same, loaded, Bool.true_and]
  cases hk : r.kind.isSecure with
  | false =>
    rw [resealed_of_plain rules hk]
    rfl
  | true =>
    obtain ⟨key, chosen, eq⟩ := resealed_of_secure rules keyed hk
    rw [chosen, eq]
    rfl

/-! ## Paths -/

theorem mapM_eq_ok {α β : Type} {f : α → Except Error β} {g : α → β} {l : List α}
    (h : ∀ x ∈ l, f x = .ok (g x)) : l.mapM f = .ok (l.map g) := by
  induction l with
  | nil => rfl
  | cons x l ih =>
    rw [List.mapM_cons, h x List.mem_cons_self, ih fun y hy => h y (List.mem_cons_of_mem _ hy)]
    rfl

section
variable {s : Store} {rules : List Rule} {Q : PutRequest → Prop} (kept : Store.Kept Q s)
include kept

/-- A listing of names has the stored names under the path, whatever their values. -/
theorem yields_getPath_names (path : String) :
    Yields (Reading s rules) (getPath path { namesOnly := true })
      (.ok (.names (s.names.filter (Store.isUnder path true)))) := by
  have names : selectedNames s path true [] = .ok (s.names.filter (Store.isUnder path true)) := by
    rw [selectedNames, s.selected_unfiltered, ← Store.names_under kept]
    rfl
  have listed : Yields (Reading s rules) (getPath path { namesOnly := true })
      ((selectedNames s path true []).map .names) := yields_getPath_listed path rfl rfl
  rwa [names] at listed

/-- Under a path are the latest versions of the names there, secret values as ciphertext. -/
theorem yields_getPath_keyed (rules : List Rule)
    (keyed : ∀ name r, s.latest? name = some r → Keyed r) (path : String) :
    Yields (Reading s rules) (getPath path { full := true })
      (.ok (.parameters ((s.under path true).map fun r => .ofRecord r (resealed rules r)))) := by
  have records : (s.under path true).mapM (readRecord rules true) =
      .ok ((s.under path true).map fun r => .ofRecord r (resealed rules r)) := by
    refine mapM_eq_ok fun r hr => readRecord_of_keyed rules ?_
    exact keyed r.name r ((Store.mem_under kept).1 hr).2
  have read : Yields (Reading s rules) (getPath path { full := true })
      ((readPath s rules true path true []).map .parameters) := yields_getPath kept path rfl
  rw [readPath, s.selected_unfiltered] at read
  change Yields _ _ (((s.under path true).mapM (readRecord rules true)).map _) at read
  rwa [records] at read

end

end Client

end ParamFile
