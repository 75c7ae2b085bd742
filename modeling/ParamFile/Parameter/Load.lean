import ParamFile.Error
import ParamFile.Parameter.Basic
import ParamFile.Text.Blank
import ParamFile.Yaml.Value

/-!
# Parameters from fields

A parameter is built from the fields of a mapping. Its kind is given, or follows from other fields: a
key id makes it secret, a sequence as value a list. A secret parameter must have a key id and any other
must not; it takes its value as ciphertext, from an input, or, where that is allowed, in the clear.
-/

namespace ParamFile

open Yaml

/-- How the fields of a parameter are read. -/
structure LoadOptions where
  /-- Only the name refers to variables. -/
  varsInNameOnly : Bool := false
  /-- A secret parameter may have its value in the clear. -/
  allowSecureStringValue : Bool := false
  deriving DecidableEq, Repr, Inhabited

/-- The template that a field other than the name makes. -/
def LoadOptions.template (o : LoadOptions) (text : String) : Template :=
  if o.varsInNameOnly then .literal text else { text }

/-- Whether a text means yes: all texts do but the empty one, `false`, `no`, `off` and `0`. -/
def isTruthy (s : String) : Bool :=
  let t := Text.trim s.toList
  let lower := String.ofList (t.map Char.toLower)
  !(t.isEmpty || lower == "false" || lower == "no" || lower == "off" || lower == "0")

namespace Parameter

/-! ## Single fields -/

/-- The text of a scalar field; a null field counts as absent. -/
def textField (m : Mapping) (owner field : String) : Except Error (Option String) :=
  match m.get? field with
  | none | some .null => .ok none
  | some v =>
    match v.scalarText? with
    | some s => .ok (some s)
    | none => .error (.invalidField owner field .scalar)

/-- What a value means as a yes or no. -/
def flag? : Value → Option Bool
  | .bool b => some b
  | .string s => some (isTruthy s)
  | .number (.integer n) => some (n != 0)
  | .number (.real x) => some (!x.isZero)
  | _ => none

def kindOf (m : Mapping) (name : String) : Except Error Kind := do
  match ← textField m name "Type" with
  | some text =>
    match Kind.ofText? text with
    | some kind => return kind
    | none => .error (.unknownKind text)
  | none =>
    if (m.get? "KeyId").isSome then return .secureString
    else
      match m.get? "Value" with
      | some (.seq _) => return .stringList
      | _ => return .string

def listItems (o : LoadOptions) (name : String) (items : List Value) : Except Error (List Template) :=
  items.mapM fun v =>
    match v.scalarText? with
    | some s => .ok (o.template s)
    | none => .error (.invalidField name "Value" .scalarList)

def plainContent (o : LoadOptions) (m : Mapping) (name : String) : Except Error (Option Content) :=
  match m.get? "Value" with
  | none | some .null => .ok none
  | some (.seq items) => (listItems o name items).map fun items => some (.list items)
  | some v =>
    match v.scalarText? with
    | some s => .ok (some (.single (o.template s)))
    | none => .error (.invalidField name "Value" .scalarOrList)

/-- The value of a secret parameter with the given key, and whether it is ciphertext. -/
def secureContent (o : LoadOptions) (m : Mapping) (name : String) (key : Template) :
    Except Error (Option Content × Bool) := do
  match ← textField m name "EncryptedValue" with
  | some ciphertext => return (some (.single (o.template ciphertext)), true)
  | none =>
    match ← textField m name "Input" with
    | some input =>
      match singleReference? input with
      | some reference =>
        return (some (.single { o.template reference with keyId := some key }), false)
      | none => .error (.invalidReference input)
    | none =>
      match ← textField m name "Value" with
      | none => return (none, false)
      | some value =>
        if o.allowSecureStringValue then return (some (.single (.literal value)), false)
        else .error (.secureStringValue name)

/-- A secret parameter has a key id, and any other has none. -/
def checkKeyId (name : String) (kind : Kind) (keyId : Option Template) : Except Error Unit :=
  match kind.isSecure, keyId with
  | true, none => .error (.missingKeyId name)
  | false, some _ => .error (.unwantedKeyId name)
  | _, _ => .ok ()

def overwriteOf (m : Mapping) (name : String) : Except Error (Option Bool) :=
  match m.get? "Overwrite" with
  | none | some .null => .ok none
  | some v =>
    match flag? v with
    | some b => .ok (some b)
    | none => .error (.invalidField name "Overwrite" .boolean)

/-- Whether the parameter is disabled, as its fields say. -/
def disableOf (o : LoadOptions) (m : Mapping) (name : String) : Except Error (Option Disable) :=
  match (m.get? "Disable").orElse fun _ => m.get? "Disabled" with
  | none | some .null => .ok none
  | some (.string text) => .ok (some (.template (o.template text)))
  | some v =>
    match flag? v with
    | some b => .ok (some (.flag b))
    | none => .error (.invalidField name "Disable" .boolean)

/-! ## All fields -/

/-- The parameter that some fields describe; its name is one of them. -/
def ofFields (o : LoadOptions) (m : Mapping) : Except Error Parameter := do
  match ← textField m "parameter" "Name" with
  | none => .error (.invalidDocument .missingName)
  | some name =>
    let kind ← kindOf m name
    let keyId := (← textField m name "KeyId").map o.template
    checkKeyId name kind keyId
    let (content, isEncrypted) ← match kind, keyId with
      | .secureString, some key => secureContent o m name key
      | _, _ => (plainContent o m name).map fun content => (content, false)
    let allowedPattern := (← textField m name "AllowedPattern").map o.template
    let description ← textField m name "Description"
    let overwrite ← overwriteOf m name
    let disable ← disableOf o m name
    return {
      name := { text := name }, kind, content, isEncrypted, allowedPattern, description, keyId
      overwrite, disable }

end Parameter

end ParamFile
