import ParamFile.Yaml.Node
import ParamFile.Yaml.Scalar
import ParamFile.Yaml.Token.Lexer

/-!
# Reading a document

A text holds at most one document; a text without one is null. Aliases are replaced by what they mean,
within two limits: collections may be nested only so deeply, and only so many aliases may be followed
for a document of a given size. No two keys of a mapping may be the same.
-/

namespace ParamFile.Yaml

/-! ## Following aliases -/

/-- How deeply collections may be nested. -/
def greatestDepth : Nat := 128

/-- What aliases mean, and how many may be followed. -/
structure Aliases where
  nodes : List (Nat × Node)
  allowance : Nat

/-- The aliases of a document. -/
def Aliases.ofRoot (root : Node) : Aliases := ⟨root.anchored.reverse, 100 * root.steps⟩

/-- Reading with a count of the aliases followed so far. -/
abbrev Unfolding := StateT Nat (Except Fault)

/-- The node that is meant. -/
def Aliases.follow (a : Aliases) : Node → Unfolding Node
  | .alias number => do
    let count := (← get) + 1
    if a.allowance < count then throw .tooManyAliases
    set count
    match a.nodes.lookup number with
    | some node => return node
    | none => throw .unknownAnchor
  | node => return node

/-! ## Meaning -/

/-- A tag that belongs to the document, without its exclamation mark. A tag that is only the mark is
its own name. -/
def localTag? (p : Properties) : Option String :=
  p.tag.bind fun t =>
    match t.toList with
    | '!' :: [] => some "!"
    | '!' :: name => some (.ofList name)
    | _ => none

/-- The tree with the local tag of its node. -/
def withTag (p : Properties) (v : Value) : Value :=
  match localTag? p with
  | some t => .tagged t v
  | none => v

/-- The tree of a scalar. -/
def scalarValue (p : Properties) (text : String) (isPlain : Bool) : Except Fault Value :=
  let untagged := if isPlain then Scalar.plain text else .ok (.string text)
  match p.tag, localTag? p with
  | some _, some t => untagged.map (.tagged t)
  | some tag, none => (Scalar.demanded? tag text).getD (.ok (.string text))
  | none, _ => untagged

/-- The entries as a mapping, if no two keys are the same. -/
def distinct : List (Value × Value) → Except Fault Mapping
  | entries =>
    let step (seen : Except Fault Mapping) (entry : Value × Value) : Except Fault Mapping := do
      let seen ← seen
      if seen.any fun other => other.1.same entry.1 then .error .duplicateKey
      else return seen ++ [entry]
    entries.foldl step (.ok [])

/-- The tree that a node means, nested at most `depth` deep. -/
def Aliases.value (a : Aliases) : (depth : Nat) → Node → Unfolding Value
  | depth, n => do
    match ← a.follow n with
    | .alias _ => throw .unknownAnchor
    | .scalar p text isPlain => scalarValue p text isPlain
    | .seq p items =>
      match depth with
      | 0 => throw .tooDeep
      | depth + 1 => return withTag p (.seq (← items.mapM (a.value depth)))
    | .map p entries =>
      match depth with
      | 0 => throw .tooDeep
      | depth + 1 =>
        let entries ← entries.mapM fun (k, v) => return (← a.value depth k, ← a.value depth v)
        return withTag p (.map (← distinct entries))

def Value.ofRoot (root : Node) : Except Fault Value :=
  (((Aliases.ofRoot root).value greatestDepth root).run 0).map (·.1)

def Value.ofText (text : String) : Except Fault Value := do
  match ← Node.ofTokens (← Token.ofText text) with
  | some root => Value.ofRoot root
  | none => return .null

end ParamFile.Yaml
