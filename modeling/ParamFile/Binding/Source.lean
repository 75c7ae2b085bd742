import ParamFile.Binding.Basic

/-!
# Binding variables

Variables are bound in the order of their names, each once, and the first that cannot be bound ends it
(`bindAll`). A built-in variable is bound to the client, whatever inputs there are; any other to the
input of its name, which is asked for if it has no value and asking is allowed.
-/

namespace ParamFile

/-- Binds some names one behind the other. -/
def bindNames {σ : Type} (bind : String → Action σ Binding) : List String → Bindings → Action σ Bindings
  | [], b => return b
  | name :: rest, b => do
    let binding ← bind name
    bindNames bind rest (b.insert name binding)

def bindAll {σ : Type} (bind : String → Action σ Binding) (names : NameSet) : Action σ Bindings :=
  bindNames bind names.names .empty

/-- The inputs that have not been bound yet, and the prompter that asks for their values. -/
structure Source where
  inputs : Inputs := .empty
  prompter : Prompter := {}
  deriving Inhabited

namespace Source

def ask (i : Input) (echo : Option Bool) : Action Source Input :=
  (i.ask echo).onPart (·.prompter) fun p s => { s with prompter := p }

/-- Binds a name. An input is taken out when it is bound; a name without one gets an input of its own if
asking is allowed. -/
def bind (asking : Bool) (echo : Option Bool) (name : String) : Action Source Binding := do
  match BuiltIn.ofName? name with
  | some b => return .builtIn b
  | none =>
    let s ← get
    match s.inputs.get? name, asking with
    | none, false => throw (.inputMissing name)
    | none, true => return .input (← ask { name } echo)
    | some i, asking =>
      set { s with inputs := s.inputs.erase name }
      if i.isSet then return .input i
      else if asking then return .input (← ask i echo)
      else throw (.inputMissing name)

end Source

end ParamFile
