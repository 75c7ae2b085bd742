import ParamFile.Store.Record
import ParamFile.Template

/-!
# Parameters

A parameter is a named value of some kind, with what else a document or the store says about it. The
names of all variables that its fields refer to are its `variableNames`; reading any field reads no others.
-/

namespace ParamFile

/-- The value of a parameter. -/
inductive Content where
  | single (t : Template)
  | list (items : List Template)
  deriving Repr, Inhabited

/-- Whether a parameter is disabled: as a fact, or as its template says once it is resolved. -/
inductive Disable where
  | flag (b : Bool)
  | template (t : Template)
  deriving Repr, Inhabited

/-- What the store says about a parameter that was read from it. -/
structure Metadata where
  version : Option Int := none
  date : Option Int := none
  user : Option String := none
  deriving DecidableEq, Repr, Inhabited

/-- A parameter. -/
structure Parameter where
  name : Template
  kind : Kind := .string
  content : Option Content := none
  /-- The value is ciphertext. -/
  isEncrypted : Bool := false
  allowedPattern : Option Template := none
  description : Option String := none
  keyId : Option Template := none
  /-- Whether it may be stored already; what the run says if it does not say itself. -/
  overwrite : Option Bool := none
  disable : Option Disable := none
  metadata : Metadata := {}
  deriving Repr, Inhabited

def Content.variableNames : Content → List String
  | .single t => t.variableNames
  | .list items => items.flatMap Template.variableNames

def Disable.variableNames : Disable → List String
  | .flag _ => []
  | .template t => t.variableNames

namespace Parameter

/-- The names of the variables in all fields. -/
def variableNames (p : Parameter) : List String :=
  p.name.variableNames ++ p.content.elim [] Content.variableNames ++
    p.allowedPattern.elim [] Template.variableNames ++ p.keyId.elim [] Template.variableNames ++
    p.disable.elim [] Disable.variableNames

/-- Whether the parameter may be stored already. -/
def mayOverwrite (p : Parameter) (byDefault : Bool) : Bool := p.overwrite.getD byDefault

/-- Whether the value comes from an input that is read with the key of the parameter. -/
def isFromInput (p : Parameter) : Bool :=
  match p.content with
  | some (.single t) => t.keyId.isSome
  | _ => false

/-- The parameter that a record holds, all its texts literal. Its value is replaced by a ciphertext if
it was encrypted again when it was read. -/
def ofRecord (r : Record) (ciphertext : Option String) : Parameter where
  name := .literal r.name
  kind := r.kind
  content := some (.single (.literal (ciphertext.getD r.value)))
  isEncrypted := ciphertext.isSome
  allowedPattern := r.allowedPattern.map .literal
  description := r.description
  keyId := r.keyId.map .literal
  metadata := ⟨some r.version, r.date, r.user⟩

end Parameter

end ParamFile
