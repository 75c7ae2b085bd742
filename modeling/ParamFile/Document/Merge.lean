import ParamFile.Document.Basic
import ParamFile.Input.Merge

/-!
# Merging documents

Documents are merged one behind the other: inputs by their own rule, a parameter defined again replaces
the earlier one in its place, and the paths to flush are put together. Values supplied from outside
reach the inputs. The variables of a document are those of its parameters and of its paths.
-/

namespace ParamFile.Document

def merge (a b : Document) : Except Error Document := do
  let inputs ← Input.merged a.inputs b.inputs
  return {
    inputs
    parameters := b.parameters.entries.foldl (fun m e => m.insert e.1 e.2) a.parameters
    flushPaths := a.flushPaths ++ b.flushPaths }

def supply (d : Document) (name value : String) (encrypted : Bool) : Except Error Document := do
  return { d with inputs := ← Input.supply d.inputs name value encrypted }

def flushTemplate (path : String) : Template := { text := path }

/-- The names of all variables that the document refers to. -/
def variableNames (d : Document) : NameSet :=
  .ofList (d.parameters.values.flatMap Parameter.variableNames ++
    d.flushPaths.flatMap fun path => (flushTemplate path).variableNames)

end ParamFile.Document
