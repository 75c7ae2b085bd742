import ParamFile.Failure
import ParamFile.NameMap
import ParamFile.Store.Record

/-!
# The parameter store: state and changes

A store keeps every version of every parameter, the oldest first, and a log of what it was asked to
write and delete. Its clock counts the versions written, so no two records have the same date. A write
is refused if the value does not match the pattern that comes with it, and, unless it may overwrite, if
the name is stored already; only the second kind of refusal is logged.
-/

namespace ParamFile

/-- How many records a page holds unless it is said. -/
def defaultPageSize : Nat := 10

theorem defaultPageSize_pos : 0 < defaultPageSize := by decide

/-- A parameter store. -/
structure Store where
  /-- The versions of each parameter, the oldest first. -/
  history : NameMap (List Record) := .empty
  /-- The put requests that passed their pattern, the last one first. -/
  puts : List PutRequest := []
  /-- The lists of names to delete, the last one first. -/
  deletes : List (List String) := []
  /-- How many versions have been written. -/
  clock : Nat := 0
  /-- How many records a page holds. -/
  pageSize : Nat := defaultPageSize
  region : String := "us-east-1"
  account : String := "000000000000"
  pageSize_pos : 0 < pageSize := by exact defaultPageSize_pos

namespace Store

instance : Inhabited Store := ⟨{}⟩

/-- The date of the moment before the first write. -/
def epoch : Int := 1700000000

def user : String := "arn:aws:iam::000000000000:user/memory"

/-- The store with pages of another size; a size of zero counts as one. -/
def withPageSize (s : Store) (size : Nat) : Store :=
  { s with pageSize := max size 1, pageSize_pos := by omega }

/-! ## Views -/

/-- The versions of a parameter, the oldest first. -/
def versions (s : Store) (name : String) : List Record := (s.history.get? name).getD []

def latest? (s : Store) (name : String) : Option Record :=
  (s.history.get? name).bind List.getLast?

def names (s : Store) : List String := s.history.names

/-! ## Writing -/

/-- Whether the value of a request matches the pattern that comes with it. -/
def PutRequest.check (r : PutRequest) : Except Failure Unit :=
  match r.allowedPattern with
  | none => .ok ()
  | some pattern =>
    match Pattern.occurs pattern r.value with
    | .error fault => .error (.invalidPattern fault)
    | .ok true => .ok ()
    | .ok false => .error (.patternMismatch r.name pattern)

/-- The record that a request writes as the given version at the given tick of the clock. -/
def PutRequest.record (r : PutRequest) (version : Int) (tick : Nat) : Record where
  name := r.name
  kind := r.kind
  value := r.value
  keyId := r.keyId
  allowedPattern := r.allowedPattern
  description := r.description
  version := version
  date := some (epoch + tick)
  user := some user

/-- The version that comes behind some others. -/
def nextVersion (versions : List Record) : Int :=
  match versions.getLast? with
  | some r => r.version + 1
  | none => 1

/-- The store with one more version of a parameter. -/
def write (s : Store) (r : PutRequest) : Store :=
  let versions := s.versions r.name
  let tick := s.clock + 1
  let record := PutRequest.record r (nextVersion versions) tick
  { s with history := s.history.insert r.name (versions ++ [record]), clock := tick }

/-- Writes a parameter; a refused request changes no parameter. -/
def put (s : Store) (r : PutRequest) : Except Failure Unit × Store :=
  match PutRequest.check r with
  | .error f => (.error f, s)
  | .ok () =>
    let logged := { s with puts := r :: s.puts }
    if s.history.contains r.name && !r.overwrite then (.error (.alreadyExists r.name), logged)
    else (.ok (), logged.write r)

/-! ## Deleting -/

/-- A call may list only so many names. -/
def checkBatch (names : List String) : Except Failure Unit :=
  if greatestBatch < names.length then .error (.tooManyNames names.length) else .ok ()

/-- Deletes some names one behind the other; answers those that were not stored when their turn
came. -/
def remove : List String → NameMap (List Record) → List String × NameMap (List Record)
  | [], history => ([], history)
  | name :: rest, history =>
    let (unknown, left) := remove rest (history.erase name)
    (if history.contains name then unknown else name :: unknown, left)

/-- Deletes some names with all their versions; answers those that were not stored. -/
def delete (s : Store) (names : List String) : Except Failure (List String) × Store :=
  match checkBatch names with
  | .error f => (.error f, s)
  | .ok () =>
    let (unknown, history) := remove names s.history
    (.ok unknown, { s with history, deletes := names :: s.deletes })

end Store

end ParamFile
