import ParamFile.Backend
import ParamFile.Error

/-!
# The client: state and calls

A client talks to a backend and remembers what does not change during a run: the region, the account,
the full form of key ids and the plaintexts of ciphertexts. It also holds the rules by which secret
values are encrypted again when they are read, and how many names it lists in one call.
-/

namespace ParamFile

/-- Which key the secret values of some parameters are encrypted with when they are read. -/
structure Rule where
  /-- What the names begin with; all names if there is none. -/
  namePrefix : Option String
  /-- The key; the parameter's own if there is none. -/
  keyId : Option String
  deriving DecidableEq, Repr, Inhabited

/-- A client of a backend. -/
structure Client where
  backend : Backend := {}
  /-- How many names one call lists. -/
  batchSize : Nat := greatestBatch
  region : Option String := none
  account : Option String := none
  /-- Key ids with their full form, the last one first. -/
  keyIds : List (String × String) := []
  /-- Ciphertexts with their plaintexts, the last one first. -/
  plaintexts : List (String × String) := []
  rules : List Rule := []
  batchSize_pos : 0 < batchSize := by exact greatestBatch_pos
  batchSize_le : batchSize ≤ greatestBatch := by exact Nat.le_refl greatestBatch

abbrev ClientM (α : Type) := Action Client α

namespace Client

instance : Inhabited Client := ⟨{}⟩

/-- The client with another batch size, as near to it as is allowed. -/
def withBatchSize (c : Client) (size : Nat) : Client :=
  { c with
    batchSize := min (max size 1) greatestBatch
    batchSize_pos := by simp only [greatestBatch]; omega
    batchSize_le := by omega }

/-- Makes a call to the backend; `subject` is what a failure is reported about. -/
def call {α : Type} (c : Call) (subject : Option String) (f : Store → Except Failure α × Store) :
    ClientM α :=
  ExceptT.mk fun client =>
    let (r, backend) := client.backend.call c f
    (r.mapError (Error.ofFailure c subject), { client with backend })

/-- A call that only reads the store. -/
def query {α : Type} (c : Call) (f : Store → Except Failure α) : ClientM α :=
  call c none fun s => (f s, s)

def describe (c : Client) : String :=
  "SsmClient \x7b store: \"" ++ Backend.storeName ++ "\", cipher: \"" ++ Backend.cipherName ++
    "\", batch_size: " ++ toString c.batchSize ++ " \x7d"

end Client

/-- The list in pieces of the given size, the last one shorter if need be. -/
def batches {α : Type} (size : Nat) : List α → List (List α)
  | [] => []
  | x :: rest => (x :: rest.take (size - 1)) :: batches size (rest.drop (size - 1))
termination_by l => l.length
decreasing_by simp only [List.length_drop, List.length_cons]; omega

/-- The pieces make up the list. -/
theorem flatten_batches {α : Type} (size : Nat) (l : List α) : (batches size l).flatten = l := by
  fun_induction batches size l with
  | case1 => rfl
  | case2 x rest ih => rw [List.flatten_cons, ih]; simp

/-- No piece is longer than the given size. -/
theorem length_le_of_mem_batches {α : Type} {size : Nat} (pos : 0 < size) {l b : List α}
    (h : b ∈ batches size l) : b.length ≤ size := by
  fun_induction batches size l with
  | case1 => cases h
  | case2 x rest ih =>
    rcases List.mem_cons.1 h with rfl | h
    · simp only [List.length_cons, List.length_take]; omega
    · exact ih h

end ParamFile
