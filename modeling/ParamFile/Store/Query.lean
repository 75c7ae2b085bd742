import ParamFile.Cipher
import ParamFile.Store.Basic

/-!
# Reading the parameter store

Records are read by name, by path or by history. Listings come in pages. A secret value is shown as it
is only to a reader who asks for decryption; others see it sealed under its key.
-/

namespace ParamFile.Store

/-! ## Showing records -/

/-- The key of secret parameters that name none. -/
def defaultKeyId : String := "alias/aws/ssm"

/-- A record as a reader sees it. -/
def shown (decrypt : Bool) (r : Record) : Record :=
  if r.kind.isSecure && !decrypt then
    { r with value := Cipher.sealed r.value (r.keyId.getD defaultKeyId) }
  else r

/-! ## Reading by name -/

/-- The latest versions of some names. -/
structure Lookup where
  records : List Record
  /-- The names that are not stored. -/
  unknown : List String
  deriving DecidableEq, Repr

/-- The latest versions of at most ten names. -/
def get (s : Store) (names : List String) (decrypt : Bool) : Except Failure Lookup := do
  checkBatch names
  return {
    records := names.filterMap fun n => (s.latest? n).map (shown decrypt)
    unknown := names.filter fun n => (s.latest? n).isNone }

/-! ## Pages -/

/-- The page of a listing that begins at the given place. -/
def page (s : Store) (records : List Record) (start : Nat) : Page where
  records := (records.drop start).take s.pageSize
  next := if start + s.pageSize < records.length then some (start + s.pageSize) else none

/-- The largest number that a page token can hold. -/
def greatestToken : Nat := 0xffffffffffffffff

/-- The number that some digits write, `n` being what the digits before them write. -/
def tokenNumber (n : Nat) : List Char → Except TokenFault Nat
  | [] => .ok n
  | c :: rest =>
    if !c.isDigit then .error .invalidDigit
    else
      let n := 10 * n + (c.toNat - 48)
      if greatestToken < n then .error .tooLarge else tokenNumber n rest

/-- The place in a listing that a page token means; no token means the beginning. -/
def tokenStart : Option String → Except Failure Nat
  | none => .ok 0
  | some token =>
    let number : Except TokenFault Nat := match token.toList with
      | [] => .error .empty
      | '+' :: d :: rest => tokenNumber 0 (d :: rest)
      | digits => tokenNumber 0 digits
    number.mapError (.invalidToken token)

/-! ## Reading by path -/

/-- What the names under a path begin with. -/
def pathStart (path : String) : List Char :=
  let p := path.toList
  if p.getLast? = some '/' then p else p ++ ['/']

/-- Whether a name lies under a path: directly, or anywhere below when `recursive`. -/
def isUnder (path : String) (recursive : Bool) (name : String) : Bool :=
  let start := pathStart path
  let n := name.toList
  start.isPrefixOf n && (recursive || !(n.drop start.length).contains '/')

/-- The field of a record that a filter looks at; a record need not have it. -/
def field (key : String) (r : Record) : Except Failure (Option String) :=
  if key = "Type" then .ok (some r.kind.text)
  else if key = "KeyId" then .ok r.keyId
  else if key = "Name" then .ok (some r.name)
  else .error (.unsupportedKey key)

def passes (f : Filter) (r : Record) : Except Failure Bool := do
  match ← field f.key r with
  | none => return false
  | some text =>
    match f.option with
    | none => return f.values.contains text
    | some "Equals" => return f.values.contains text
    | some "BeginsWith" => return f.values.any fun v => v.toList.isPrefixOf text.toList
    | some option => .error (.unsupportedOption option)

/-- Whether a record passes all filters. Every filter is tried, so that an unsupported one is always
reported. -/
def passesAll (filters : List Filter) (r : Record) : Except Failure Bool := do
  let results ← filters.mapM fun f => passes f r
  return results.all id

/-- A question for the parameters under a path. -/
structure Query where
  path : String
  recursive : Bool := true
  decrypt : Bool := false
  filters : List Filter := []
  deriving DecidableEq, Repr

/-- The latest versions of the parameters that a question asks for, in the order of their names. -/
def listing (s : Store) (q : Query) : Except Failure (List Record) := do
  let under := (s.names.filter (isUnder q.path q.recursive)).filterMap s.latest?
  let kept ← under.filterM (passesAll q.filters)
  return kept.map (shown q.decrypt)

def pathPage (s : Store) (q : Query) (start : Nat) : Except Failure Page := do
  return s.page (← s.listing q) start

/-- The page of the parameters that a question asks for that a token means. -/
def pathPageAt (s : Store) (q : Query) (token : Option String) : Except Failure Page := do
  let records ← s.listing q
  return s.page records (← tokenStart token)

/-! ## Reading by history -/

/-- One page of the versions of a parameter, the oldest first; none for an unknown name. -/
def historyPage (s : Store) (name : String) (decrypt : Bool) (start : Nat) : Page :=
  s.page ((s.versions name).map (shown decrypt)) start

/-- The page of the versions of a parameter that a token means. For an unknown name the token does not
count. -/
def historyPageAt (s : Store) (name : String) (decrypt : Bool) (token : Option String) :
    Except Failure Page :=
  if s.history.contains name then do return s.historyPage name decrypt (← tokenStart token)
  else .ok ⟨[], none⟩

def tokenOf (start : Nat) : String := toString start

end ParamFile.Store
