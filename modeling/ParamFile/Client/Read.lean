import ParamFile.Client.Crypto
import ParamFile.Parameter.Basic

/-!
# The client: reading parameters

Parameters are read by name, by history or by path. Listings are read page by page, one call for each
page. Secret values are read decrypted and encrypted again under the key that the rules choose, if the
reader wants that.
-/

namespace ParamFile

/-- How parameters are read. -/
structure ReadOptions where
  /-- Whether each parameter is read through its history. -/
  full : Bool := false
  /-- Whether secret values are encrypted again. -/
  reencrypt : Bool := true
  deriving DecidableEq, Repr, Inhabited

/-- How the parameters under a path are read. -/
structure PathOptions extends ReadOptions where
  namesOnly : Bool := false
  recursive : Bool := true
  filters : List Filter := []
  deriving DecidableEq, Repr, Inhabited

/-- What was found under a path. -/
inductive Listing where
  | names (found : List String)
  | parameters (found : List Parameter)
  deriving Repr, Inhabited

def Listing.toNames : Listing → List String
  | .names found => found
  | .parameters found => found.map (·.name.text)

/-- The parameters that were found; a listing of names has none. -/
def Listing.toParameters : Listing → List Parameter
  | .names _ => []
  | .parameters found => found

namespace Client

/-! ## Records -/

def loadRecord (reencrypt : Bool) (r : Record) : ClientM Parameter := do
  if !(reencrypt && r.kind.isSecure) then return .ofRecord r none
  else
    match chosenKey (← get).rules r.name r.keyId with
    | none => throw (.noReencryptionKey r.name)
    | some key => return .ofRecord r (some (← encrypt r.value key))

/-! ## Pages -/

/-- Reads pages from the given place on. -/
def gather {α : Type} (fetch : Nat → ClientM Page) (load : Record → ClientM α) :
    (fuel : Nat) → (start : Nat) → ClientM (List α)
  | 0, _ => return []
  | fuel + 1, start => do
    let page ← fetch start
    let loaded ← page.records.mapM load
    match page.next with
    | none => return loaded
    | some next => return loaded ++ (← gather fetch load fuel next)

/-- How many records the longest listing of a store can have. -/
def listingBound (s : Store) : Nat :=
  s.history.values.foldl (fun n versions => n + versions.length) s.history.size

def gatherAll {α : Type} (fetch : Nat → ClientM Page) (load : Record → ClientM α) :
    ClientM (List α) := do
  gather fetch load (listingBound (← get).backend.store + 1) 0

/-! ## Reading by history -/

def fetchHistory (name : String) (decrypt : Bool) (start : Nat) : ClientM Page :=
  query .history fun s => .ok (s.historyPage name decrypt start)

/-- The versions of a parameter, the newest first, at most `limit` of them. -/
def getVersions (name : String) (reencrypt : Bool) (limit : Option Nat) : ClientM (List Parameter) := do
  let records ← gatherAll (fetchHistory name reencrypt) pure
  let newestFirst := records.mergeSort fun a b => b.version ≤ a.version
  (limit.elim newestFirst newestFirst.take).mapM (loadRecord reencrypt)

/-! ## Reading by name -/

/-- Reads the latest version of each name through its history; also answers the names that are not
stored. -/
def getFull (reencrypt : Bool) : List String → ClientM (List Parameter × List String)
  | [] => return ([], [])
  | name :: rest => do
    let versions ← getVersions name reencrypt (some 1)
    let (found, unknown) ← getFull reencrypt rest
    match versions.getLast? with
    | some latest => return (latest :: found, unknown)
    | none => return (found, name :: unknown)

/-- Reads the latest versions in batches; also answers the names that are not stored. -/
def getBatches (reencrypt : Bool) : List (List String) → ClientM (List Parameter × List String)
  | [] => return ([], [])
  | batch :: rest => do
    let answer ← query .get fun s => s.get batch reencrypt
    let loaded ← answer.records.mapM (loadRecord reencrypt)
    let (found, unknown) ← getBatches reencrypt rest
    return (loaded ++ found, answer.unknown ++ unknown)

/-- Reads some parameters by name; names that are not stored fail together. -/
def getNames (names : List String) (o : ReadOptions) : ClientM (List Parameter) := do
  let (found, unknown) ←
    if o.full then getFull o.reencrypt names
    else getBatches o.reencrypt (batches (← get).batchSize names)
  if unknown.isEmpty then return found else throw (.invalidParameters unknown)

/-! ## Reading by path -/

def fetchPath (q : Store.Query) (start : Nat) : ClientM Page :=
  query .path fun s => s.pathPage q start

def getPath (path : String) (o : PathOptions) : ClientM Listing := do
  if o.namesOnly && o.full then throw (.invalidOptions .namesOnlyAndFull)
  let q : Store.Query := ⟨path, o.recursive, o.reencrypt && !o.namesOnly, o.filters⟩
  if o.namesOnly || o.full then
    let names ← gatherAll (fetchPath q) fun r => pure r.name
    if o.namesOnly then return .names names
    else .parameters <$> getNames names { full := true, reencrypt := o.reencrypt }
  else .parameters <$> gatherAll (fetchPath q) (loadRecord o.reencrypt)

/-- The names under a path, at any depth. -/
def namesUnder (path : String) : ClientM (List String) :=
  Listing.toNames <$> getPath path { namesOnly := true }

end Client

end ParamFile
