import ParamFile.Binding.Basic
import ParamFile.Parameter.Load

/-!
# Reading parameters

The fields of a parameter are read against bindings. Ciphertext is decrypted where the plaintext is
asked for. The fields can be written down again (`Parameter.dump`): a secret value is written as
ciphertext only, one that comes from an input being encrypted for it.
-/

namespace ParamFile.Parameter

open Yaml

/-! ## Fields -/

/-- The text of a template that need not be there. -/
def resolveOption (b : Bindings) : Option Template → ClientM (Option String)
  | none => return none
  | some t => some <$> t.resolve b

def readName (p : Parameter) (b : Bindings) : ClientM String := p.name.resolve b

def readPattern (p : Parameter) (b : Bindings) : ClientM (Option String) :=
  resolveOption b p.allowedPattern

def readKeyId (p : Parameter) (b : Bindings) : ClientM (Option String) := resolveOption b p.keyId

def readDisabled (p : Parameter) (b : Bindings) : ClientM Bool :=
  match p.disable with
  | none => return false
  | some (.flag disabled) => return disabled
  | some (.template t) => isTruthy <$> t.resolve b

/-- The value as it is written down: ciphertext stays ciphertext, and the items of a list are joined by
commas. -/
def readRaw (p : Parameter) (b : Bindings) : ClientM (Option String) :=
  match p.content with
  | none => return none
  | some (.single t) => some <$> t.resolve b
  | some (.list items) => do return some (",".intercalate (← items.mapM (·.resolve b)))

/-- The name for a report: as it is written if it cannot be read. -/
def reportName (p : Parameter) (b : Bindings) : ClientM String :=
  tryCatch (p.readName b) fun _ => return p.name.text

/-- The plaintext. Only a disabled parameter may be without a value. -/
def readValue (p : Parameter) (b : Bindings) : ClientM (Option String) := do
  match ← p.readRaw b with
  | none =>
    if ← p.readDisabled b then return none
    else throw (.missingValue (← p.reportName b))
  | some raw =>
    if p.isEncrypted then
      let _ ← p.readKeyId b
      some <$> Client.decrypt raw
    else return some raw

/-! ## All fields -/

/-- A text that need not be there. -/
def optionValue (s : Option String) : Value := s.elim .null .string

/-- The mapping with a text field behind the others, if there is one. -/
def withText (m : Mapping) (field : String) (s : Option String) : Mapping :=
  s.elim m fun s => m.insert field (.string s)

/-- The field that holds the value: ciphertext for a secret value that is encrypted or comes from an
input, otherwise the plaintext. -/
def dumpContent (p : Parameter) (b : Bindings) : ClientM (String × Option String) := do
  if p.kind.isSecure && p.isEncrypted then return ("EncryptedValue", ← p.readRaw b)
  else if p.kind.isSecure && p.isFromInput then
    let value ← p.readValue b
    let keyId ← p.readKeyId b
    match value, keyId with
    | some value, some keyId => return ("EncryptedValue", some (← Client.encrypt value keyId))
    | _, _ => return ("EncryptedValue", none)
  else return ("Value", ← p.readValue b)

/-- The fields of the parameter except its name. -/
def dumpFields (p : Parameter) (b : Bindings) : ClientM Mapping := do
  let (field, value) ← p.dumpContent b
  let pattern ← p.readPattern b
  let keyId ← p.readKeyId b
  let m : Mapping := [(.string "Type", .string p.kind.text), (.string field, optionValue value)]
  return withText (withText (withText m "AllowedPattern" pattern) "Description" p.description)
    "KeyId" keyId

/-- The fields of the parameter, its name first. -/
def dump (p : Parameter) (b : Bindings) : ClientM Mapping := do
  let name ← p.readName b
  return (.string "Name", .string name) :: (← p.dumpFields b)

end ParamFile.Parameter
