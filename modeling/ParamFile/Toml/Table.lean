import ParamFile.Number.Decimal

/-!
# Tables of settings

A table maps keys to values; a value is a scalar, an array, or again a table. How a table came into
being decides what may be added to it later: a table that its own header opened cannot be opened
again, a table written in braces is closed, one that only a longer header or a dotted key implied can
still grow.
-/

namespace ParamFile.Toml

open Number

/-- Why a text is no table of settings. -/
inductive Fault where
  | unexpectedCharacter
  | unexpectedEnd
  | forbiddenCharacter
  | malformedEscape
  | malformedKey
  | malformedNumber
  | malformedDate
  | numberTooLarge
  | duplicateKey
  /-- A key leads through something that is no table. -/
  | notATable
  | tooDeep
  deriving DecidableEq, Repr, Inhabited

def Fault.message : Fault → String
  | .unexpectedCharacter => "unexpected character"
  | .unexpectedEnd => "unexpected end of input"
  | .forbiddenCharacter => "control characters are not allowed"
  | .malformedEscape => "invalid escape sequence"
  | .malformedKey => "invalid key"
  | .malformedNumber => "invalid number"
  | .malformedDate => "invalid date-time"
  | .numberTooLarge => "number too large to fit in target type"
  | .duplicateKey => "duplicate key"
  | .notATable => "dotted key attempted to extend non-table type"
  | .tooDeep => "recursion limit exceeded"

/-- How a table came into being. -/
inductive Origin where
  /-- By its own header. -/
  | opened
  /-- By the header of a table inside it. -/
  | implied
  /-- By a key with dots. -/
  | dotted
  /-- In braces. -/
  | inline
  deriving DecidableEq, Repr, Inhabited

/-- A value in a table. -/
inductive Value where
  | string (s : String)
  | integer (n : Int)
  | real (x : Binary64)
  | bool (b : Bool)
  /-- A date, a time or both, as written. -/
  | moment (text : String)
  | array (items : List Value)
  | table (origin : Origin) (entries : List (String × Value))
  /-- The tables that one header opened, one each time it was written; the last one first. -/
  | tables (reversed : List (List (String × Value)))
  deriving Repr, Inhabited

/-- A table: its keys with their values. -/
abbrev Table := List (String × Value)

namespace Table

def get? (t : Table) (key : String) : Option Value := t.lookup key

/-- The table with a key set that it has already, or with a new key at its end. -/
def set (t : Table) (key : String) (value : Value) : Table :=
  match t with
  | [] => [(key, value)]
  | (k, v) :: rest => if k = key then (k, value) :: rest else (k, v) :: set rest key value

/-- A table with a new key. -/
def add (t : Table) (key : String) (value : Value) : Except Fault Table :=
  match t.get? key with
  | none => .ok (t ++ [(key, value)])
  | some _ => .error .duplicateKey

/-! ## Changing a table inside another -/

/-- Changes the table at a path. Tables that are missing on the way come into being with `origin`; a
path that comes from a dotted key cannot lead through a table that was opened. -/
def change (origin : Origin) (f : Origin → Table → Except Fault Table) :
    (path : List String) → (self : Origin) → Table → Except Fault Table
  | [], self, t => f self t
  | key :: path, _, t =>
    match t.get? key with
    | none => do
      let inner ← change origin f path origin []
      return t.set key (.table origin inner)
    | some (.table .inline _) => .error .notATable
    | some (.table own inner) =>
      if origin = .dotted ∧ own = .opened then .error .duplicateKey
      else do
        let inner ← change origin f path own inner
        return t.set key (.table own inner)
    | some (.tables (last :: before)) => do
      let last ← change origin f path .opened last
      return t.set key (.tables (last :: before))
    | some _ => .error .notATable

/-- Gives a value to a key, which is the path with a name at its end. -/
def assign (t : Table) (path : List String) (name : String) (value : Value) : Except Fault Table :=
  change .dotted
    (fun own inner =>
      if decide (own = .dotted) == path.isEmpty then .error .duplicateKey else inner.add name value)
    path .opened t

def openTable (t : Table) (path : List String) (name : String) : Except Fault Table :=
  change .implied
    (fun _ inner =>
      match inner.get? name with
      | none => .ok (inner ++ [(name, .table .opened [])])
      | some (.table .implied entries) => .ok (inner.set name (.table .opened entries))
      | some _ => .error .duplicateKey)
    path .opened t

/-- Opens one more of the tables that a header in double brackets names. -/
def openNext (t : Table) (path : List String) (name : String) : Except Fault Table :=
  change .implied
    (fun _ inner =>
      match inner.get? name with
      | none => .ok (inner ++ [(name, .tables [[]])])
      | some (.tables reversed) => .ok (inner.set name (.tables ([] :: reversed)))
      | some _ => .error .duplicateKey)
    path .opened t

end Table

end ParamFile.Toml
