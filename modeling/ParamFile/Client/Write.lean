import ParamFile.Client.Read
import ParamFile.Parameter.Read

/-!
# The client: writing and deleting parameters

All parameters are read before the first one is written (`putAll`), so that one that cannot be read
leaves the store as it was. Names are deleted in batches that a single call can list.
-/

namespace ParamFile.Client

/-! ## Writing -/

/-- The request that writes a parameter; none for a disabled one. -/
def request? (b : Bindings) (overwrite : Bool) (p : Parameter) : ClientM (Option PutRequest) := do
  if ← p.readDisabled b then return none
  else
    let name ← p.readName b
    match ← p.readValue b with
    | none => throw (.missingValue name)
    | some value =>
      let allowedPattern ← p.readPattern b
      let keyId ← p.readKeyId b
      return some {
        name, kind := p.kind, value, allowedPattern, description := p.description, keyId
        overwrite := p.mayOverwrite overwrite }

def requests (b : Bindings) (overwrite : Bool) (ps : List Parameter) : ClientM (List PutRequest) :=
  List.filterMap id <$> ps.mapM (request? b overwrite)

def put (r : PutRequest) : ClientM Unit := call .put (some r.name) fun s => s.put r

def putBatches (batches : List (List PutRequest)) : ClientM Unit :=
  batches.forM fun batch => batch.forM put

/-- Writes the parameters that are not disabled; answers how many. -/
def putAll (ps : List Parameter) (b : Bindings) (overwrite : Bool) : ClientM Nat := do
  let requests ← requests b overwrite ps
  putBatches (batches (← get).batchSize requests)
  return requests.length

/-! ## Deleting -/

/-- Deletes the names of one batch; answers how many were stored. -/
def deleteBatch (batch : List String) : ClientM Nat := do
  let unknown ← call .delete none fun s => s.delete batch
  return batch.length - unknown.length

/-- Deletes the names of some batches; answers how many were stored. -/
def deleteBatches : List (List String) → ClientM Nat
  | [] => return 0
  | batch :: rest => do
    let n ← deleteBatch batch
    return n + (← deleteBatches rest)

/-- Deletes some names; answers how many were stored. -/
def deleteNames (names : List String) : ClientM Nat := do
  deleteBatches (batches (← get).batchSize names)

/-- Deletes what lies under a path; answers how much. -/
def deletePath (path : String) (recursive : Bool) (filters : List Filter) : ClientM Nat := do
  let found ← getPath path { namesOnly := true, recursive, filters }
  deleteNames found.toNames

end ParamFile.Client
