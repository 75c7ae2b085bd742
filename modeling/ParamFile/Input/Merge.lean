import ParamFile.Input.Basic

/-!
# Merging inputs

Two declarations of one input must agree on the kind, and on the pattern if both give one. What the
first leaves open the second fills in: the pattern and the description, but not the default.
-/

namespace ParamFile.Input

def merge (name : String) (a b : Input) : Except Error Input :=
  if a.kind ≠ b.kind then .error (.inputTypeConflict name a.kind b.kind)
  else
    let filled := { a with
      pattern := a.pattern.orElse fun _ => b.pattern
      description := a.description.orElse fun _ => b.description }
    match a.pattern, b.pattern with
    | some first, some second =>
      if first ≠ second then .error (.inputPatternConflict name first second) else .ok filled
    | _, _ => .ok filled

/-- Merges some declarations, one behind the other; what was merged before a conflict stays merged. -/
def mergeEntries : List (String × Input) → Action Inputs Unit
  | [] => return
  | (name, b) :: rest => do
    let inputs ← get
    match inputs.get? name with
    | none =>
      set (inputs.insert name b)
      mergeEntries rest
    | some a =>
      match merge name a b with
      | .error e => throw e
      | .ok merged =>
        set (inputs.insert name merged)
        mergeEntries rest

def mergeAll (others : Inputs) : Action Inputs Unit := mergeEntries others.entries

/-- Some inputs with others merged in. -/
def merged (inputs others : Inputs) : Except Error Inputs :=
  match (mergeAll others).runOn inputs with
  | (.ok (), result) => .ok result
  | (.error e, _) => .error e

/-- The inputs with a value supplied to one of them. An input that is not declared comes into being with
the kind that fits the value; a declared one that is not secret takes no ciphertext. -/
def supply (inputs : Inputs) (name value : String) (encrypted : Bool) : Except Error Inputs :=
  let supplied : Kind := if encrypted then .secureString else .string
  let input := (inputs.get? name).getD { name, kind := supplied }
  if encrypted && !input.kind.isSecure then .error (.inputTypeConflict name input.kind supplied)
  else .ok (inputs.insert name (input.setValue value (some encrypted)))

end ParamFile.Input
