import ParamFile.Binding.Source
import ParamFile.Document.Merge
import ParamFile.Parameter.Read

/-!
# Resolved documents

A document whose variables are bound can be read: its names, its paths to flush, and its parameters
written down as a document again (`Resolved.compile`).
-/

namespace ParamFile

open Yaml

/-- A document whose variables are bound. -/
structure Resolved where
  parameters : OrderedMap Parameter
  flushPaths : List String
  bindings : Bindings
  deriving Inhabited

namespace Document

/-- The document with its variables bound. -/
def resolveWith {σ : Type} (d : Document) (bind : String → Action σ Binding) : Action σ Resolved := do
  return ⟨d.parameters, d.flushPaths, ← bindAll bind d.variableNames⟩

/-- The document with its variables bound to its own inputs, which are asked for if that is allowed. -/
def resolve (d : Document) (asking : Bool) (echo : Option Bool) : Action Prompter Resolved :=
  ExceptT.mk fun prompter =>
    let (r, s) := (d.resolveWith (Source.bind asking echo)).runOn ⟨d.inputs, prompter⟩
    (r, s.prompter)

/-! ## Writing parameters as a document -/

/-- The entry of the paths to flush, if there are any. -/
def flushEntry (paths : List String) : Mapping :=
  match paths with
  | [] => []
  | [path] => [(.string flushKey, .string path)]
  | paths => [(.string flushKey, .seq (paths.map .string))]

/-- Adds the entries of some parameters to a document. -/
def compileEntries (b : Bindings) (ignoreDisabled : Bool) : List Parameter → Mapping → ClientM Mapping
  | [], m => return m
  | p :: rest, m => do
    let skipped ← if ignoreDisabled then p.readDisabled b else pure false
    if skipped then compileEntries b ignoreDisabled rest m
    else
      let name ← p.readName b
      let fields ← p.dumpFields b
      compileEntries b ignoreDisabled rest (m.insert name (.map fields))

/-- The document of some parameters. -/
def compile (ps : List Parameter) (paths : List String) (ignoreDisabled : Bool) (b : Bindings) :
    ClientM Mapping :=
  compileEntries b ignoreDisabled ps (flushEntry paths)

end Document

namespace Resolved

def list (r : Resolved) : List Parameter := r.parameters.values

def readFlushPaths (r : Resolved) : ClientM (List String) :=
  r.flushPaths.mapM fun path => (Document.flushTemplate path).resolve r.bindings

def readNames (r : Resolved) : ClientM (List String) := r.list.mapM (·.readName r.bindings)

/-- The document written again, with its paths to flush and its disabled parameters if wanted. -/
def compile (r : Resolved) (includeFlush ignoreDisabled : Bool) : ClientM Mapping := do
  let paths ← if includeFlush then r.readFlushPaths else pure []
  Document.compile r.list paths ignoreDisabled r.bindings

end Resolved

end ParamFile
