import ParamFile.Input.Basic
import ParamFile.Yaml.Value

/-!
# Declarations of inputs

The input section of a document maps names to declarations. A declaration is a kind, or a mapping with
the kind, a pattern, a description and a default; a list as default means its scalars joined by commas.
-/

namespace ParamFile.Input

open Yaml

/-- The fields of a declaration. -/
structure Declaration where
  kind : Option String := none
  pattern : Option String := none
  description : Option String := none
  default : Option Value := none

namespace Declaration

/-- A text field, which may be null. -/
def text? (field : String) (v : Value) : Except Error (Option String) :=
  match v with
  | .null => .ok none
  | v =>
    match v.untagged with
    | .string s => .ok (some s)
    | _ => .error (.inputField field)

/-- The declaration with one more field; a field other than these four does not count. -/
def addField (d : Declaration) (field : String) (v : Value) : Except Error Declaration := do
  match field with
  | "Type" => return { d with kind := ← text? field v }
  | "Pattern" => return { d with pattern := ← text? field v }
  | "Description" => return { d with description := ← text? field v }
  | "Default" => return { d with default := if v.isNull then none else some v }
  | _ => return d

def fields : List String := ["Type", "Pattern", "Description", "Default"]

/-- The declaration that a mapping makes. Its keys must be texts, and none of the fields that count may
be given twice. -/
def ofMapping (m : Mapping) : Except Error Declaration :=
  go m [] {}
where
  /-- Adds the remaining fields; `seen` are the ones given before. -/
  go : Mapping → (seen : List String) → Declaration → Except Error Declaration
    | [], _, d => .ok d
    | (k, v) :: rest, seen, d =>
      match k.untagged with
      | .string field =>
        if fields.contains field && seen.contains field then .error (.inputField field)
        else do go rest (field :: seen) (← d.addField field v)
      | k => .error (.inputField k.describe)

end Declaration

def defaultText (name : String) : Option Value → Except Error (Option String)
  | none => .ok none
  | some (.seq items) => .ok (some (",".intercalate (items.filterMap Value.scalarText?)))
  | some v =>
    match v.scalarText? with
    | some s => .ok (some s)
    | none => .error (.invalidField name "Default" .scalarOrList)

def ofDeclaration (name : String) (d : Declaration) : Except Error Input := do
  let kind ← match d.kind with
    | none => .ok Kind.string
    | some text =>
      match Kind.ofText? text with
      | some kind => .ok kind
      | none => .error (.unknownKind text)
  if kind.isSecure && d.default.isSome then .error (.secureDefault name)
  let default ← defaultText name d.default
  return { name, kind, pattern := d.pattern, description := d.description, default }

/-- The input that an entry of the input section declares. -/
def ofEntry (name : String) (v : Value) : Except Error Input := do
  match v with
  | .null => ofDeclaration name {}
  | .string kind => ofDeclaration name { kind := some kind }
  | .map m => ofDeclaration name (← Declaration.ofMapping m)
  | _ => .error (.invalidField name "Type" .kindOrMapping)

def ofEntries (entries : Mapping) (inputs : Inputs) : Except Error Inputs :=
  match entries with
  | [] => .ok inputs
  | (k, v) :: rest =>
    match k.scalarText? with
    | none => .error (.invalidDocument (.inputName k.describe))
    | some name => do ofEntries rest (inputs.insert name (← ofEntry name v))

/-- The inputs that the input section of a document declares. -/
def ofSection (v : Value) : Except Error Inputs :=
  match v with
  | .null => .ok .empty
  | .map entries => ofEntries entries .empty
  | _ => .error (.invalidDocument .inputSection)

end ParamFile.Input
