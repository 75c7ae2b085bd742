import ParamFile.Input.Load
import ParamFile.OrderedMap
import ParamFile.Parameter.Load
import ParamFile.Yaml.Reader

/-!
# Parameter documents

A document is a mapping. Keys that begin with a period are reserved: one declares inputs, one holds
fields that all entries share, one lists the paths to flush. Every other entry is a parameter, its key
being its name; the entry's own fields win over the shared ones. A bare scalar stands for a text, a bare
sequence for a list.
-/

namespace ParamFile

open Yaml

/-- What a document says. -/
structure Document where
  inputs : Inputs := .empty
  /-- The parameters by the names as written. -/
  parameters : OrderedMap Parameter := .empty
  flushPaths : List String := []
  deriving Inhabited

namespace Document

/-! ## Reserved keys -/

/-- The key of the section that declares inputs. -/
def inputKey : String := ".INPUT"

/-- The key of the fields that all entries share. -/
def commonKey : String := ".COMMON"

def flushKey : String := ".FLUSH"

def isReserved (name : String) : Bool := name.toList.head? == some '.'

def commonFields (root : Mapping) : Except Error Mapping :=
  match root.get? commonKey with
  | none | some .null => .ok []
  | some (.map m) => .ok m
  | some _ => .error (.invalidDocument .commonSection)

/-- A path to flush, as listed. -/
def flushPath (v : Value) : Except Error String :=
  match v.asString? with
  | some path => .ok path
  | none => .error (.invalidDocument .flushSection)

/-- The paths to flush: one, or a list of them. -/
def flushSection (root : Mapping) : Except Error (List String) :=
  match root.get? flushKey with
  | none | some .null => .ok []
  | some (.string path) => .ok [path]
  | some (.seq paths) => paths.mapM flushPath
  | some _ => .error (.invalidDocument .flushSection)

/-! ## Entries -/

def entryFields (name : String) (v : Value) : Except Error Mapping :=
  let bare (kind : Kind) : Mapping := [(.string "Type", .string kind.text), (.string "Value", v)]
  match v with
  | .null => .ok []
  | .map m => .ok m
  | .seq _ => .ok (bare .stringList)
  | .string _ | .number _ | .bool _ => .ok (bare .string)
  | .tagged .. => .error (.invalidDocument (.taggedEntry name))

/-- The fields with others put over them. Keys that are no texts name no field. -/
def override (fields : Mapping) (others : Mapping) : Mapping :=
  others.foldl
    (fun m entry =>
      match entry.1 with
      | .string field => m.insert field entry.2
      | _ => m)
    fields

/-- All fields of an entry: its name, the shared fields over it, and its own fields over both. -/
def fragment (name : String) (common own : Mapping) : Mapping :=
  override (override [(.string "Name", .string name)] common) own

/-- The parameters of some entries, added to others. -/
def addEntries (o : LoadOptions) (common : Mapping) :
    Mapping → OrderedMap Parameter → Except Error (OrderedMap Parameter)
  | [], parameters => .ok parameters
  | (k, v) :: rest, parameters =>
    match k.scalarText? with
    | none => .error (.invalidDocument (.key k.describe))
    | some name =>
      if isReserved name then addEntries o common rest parameters
      else do
        let p ← Parameter.ofFields o (fragment name common (← entryFields name v))
        addEntries o common rest (parameters.insert name p)

/-! ## Whole documents -/

def ofMapping (o : LoadOptions) (root : Mapping) : Except Error Document := do
  let inputs ← Input.ofSection ((root.get? inputKey).getD .null)
  let common ← commonFields root
  let flushPaths ← flushSection root
  let parameters ← addEntries o common root .empty
  return { inputs, parameters, flushPaths }

/-- What a document tree says; null says nothing. -/
def ofTree (o : LoadOptions) (v : Value) : Except Error Document :=
  match v with
  | .null => .ok {}
  | .map root => ofMapping o root
  | _ => .error (.invalidDocument .topLevel)

/-- The tree that a text writes. -/
def treeOfText (text : String) : Except Error Value :=
  match Value.ofText text with
  | .ok v => .ok v
  | .error fault => .error (.yaml fault)

def ofText (o : LoadOptions) (text : String) : Except Error Document := do
  ofTree o (← treeOfText text)

end Document

end ParamFile
