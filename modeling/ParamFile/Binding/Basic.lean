import ParamFile.Input.Basic
import ParamFile.Template

/-!
# Bindings

A binding says where the value of a variable comes from: an input, or the client itself, which answers
for two built-in variables. A template is resolved against bindings: its key first, then its references
from left to right, each replaced once; what a value looks like does not matter any more
(`substitute` sees names and values only).
-/

namespace ParamFile

/-! ## Variables -/

/-- A variable for which the client answers. -/
inductive BuiltIn where
  | region
  | account
  deriving DecidableEq, Repr, Inhabited

namespace BuiltIn

def ofName? (name : String) : Option BuiltIn :=
  if name = "Region" then some .region else if name = "Account" then some .account else none

def value : BuiltIn → ClientM String
  | .region => Client.askRegion
  | .account => Client.askAccount

end BuiltIn

/-- Where the value of a variable comes from. -/
inductive Binding where
  | input (i : Input)
  | builtIn (b : BuiltIn)
  deriving DecidableEq, Repr, Inhabited

/-- The value of a bound variable for a reader who has a key, or none. -/
def Binding.value (b : Binding) (keyId : Option String) : ClientM String :=
  match b with
  | .input i => i.value keyId
  | .builtIn b => b.value

abbrev Bindings := NameMap Binding

def Bindings.read (b : Bindings) (name : String) (keyId : Option String) : ClientM String :=
  match b.get? name with
  | none => throw (.unresolvedVariable name)
  | some binding => binding.value keyId

/-! ## Resolving templates -/

/-- A cut text with its references replaced from left to right. -/
def Cut.substitute {m : Type → Type} [Monad m] (read : String → m String) (k : Cut) : m (List Char) :=
  go k.lead k.links
where
  /-- Replaces the remaining references behind what has been put together. -/
  go (done : List Char) : List (List Char × List Char) → m (List Char)
    | [] => return done
    | (name, behind) :: rest => do
      let value ← read (.ofList name)
      go (done ++ value.toList ++ behind) rest

/-- The text of a template. A template without references is its own text, and nothing is read. -/
def Template.resolve (b : Bindings) : Template → ClientM String
  | ⟨text, isLiteral, keyId⟩ =>
    let pieces := Template.pieces ⟨text, isLiteral, none⟩
    if pieces.links.isEmpty then return text
    else do
      let key ← match keyId with
        | some key => some <$> key.resolve b
        | none => pure none
      return .ofList (← pieces.substitute fun name => b.read name key)

/-- A template without references resolves to its text, whatever is bound. -/
@[simp] theorem Template.resolve_literal (b : Bindings) (text : String) :
    (Template.literal text).resolve b = pure text := by
  simp [Template.literal, Template.resolve, Template.pieces]

end ParamFile
