import ParamFile.Text.Utf8
import ParamFile.Yaml.Fault
import ParamFile.Yaml.Token

/-!
# Nodes of a document

What the tokens of a document say, before aliases are followed and scalars get a meaning. A node may
have a tag and an anchor. Anchors are numbered: a new one gets as its number how many different names
there were before it, so that defining a name again can give a number that another anchor gets later;
an alias means the node that got its number last (`Node.anchored`).
-/

namespace ParamFile.Yaml

/-- The tag and the anchor of a node. -/
structure Properties where
  tag : Option String := none
  anchor : Option Nat := none
  deriving DecidableEq, Repr, Inhabited

/-- A node of a document. -/
inductive Node where
  | alias (anchor : Nat)
  | scalar (p : Properties) (text : String) (isPlain : Bool)
  | seq (p : Properties) (items : List Node)
  | map (p : Properties) (entries : List (Node × Node))
  deriving Repr, Inhabited

namespace Node

/-- A scalar that is left out. -/
def missing : Node := .scalar {} "" true

mutual

/-- The nodes with an anchor in the order in which they begin. -/
def anchored : Node → List (Nat × Node)
  | .alias _ => []
  | .scalar p text isPlain => (p.anchor.map fun n => (n, .scalar p text isPlain)).toList
  | .seq p items => (p.anchor.map fun n => (n, .seq p items)).toList ++ anchoredItems items
  | .map p entries => (p.anchor.map fun n => (n, .map p entries)).toList ++ anchoredEntries entries

def anchoredItems : List Node → List (Nat × Node)
  | [] => []
  | n :: rest => anchored n ++ anchoredItems rest

def anchoredEntries : List (Node × Node) → List (Nat × Node)
  | [] => []
  | (k, v) :: rest => anchored k ++ anchored v ++ anchoredEntries rest

end

mutual

/-- How many steps it takes to go through a node: one for a leaf, two for the ends of a collection. -/
def steps : Node → Nat
  | .alias _ | .scalar .. => 1
  | .seq _ items => stepsItems items + 2
  | .map _ entries => stepsEntries entries + 2

def stepsItems : List Node → Nat
  | [] => 0
  | n :: rest => steps n + stepsItems rest

def stepsEntries : List (Node × Node) → Nat
  | [] => 0
  | (k, v) :: rest => steps k + steps v + stepsEntries rest

end

end Node

/-! ## From tokens to nodes -/

namespace Grammar

/-- What has been declared so far: the numbers of the anchors and the expansions of tag handles. -/
structure Scope where
  anchors : List (String × Nat) := []
  handles : List (String × List UInt8) := []

/-- The scope with an anchor declared, and its number. -/
def Scope.declare (s : Scope) (name : String) : Nat × Scope :=
  let number := s.anchors.length
  (number, { s with anchors := (name, number) :: s.anchors.filter (·.1 ≠ name) })

/-- The tokens that are left, and what has been declared. -/
structure State where
  tokens : List Token
  scope : Scope

/-- Reading one thing from the tokens. -/
abbrev Reader := StateT State (Except Fault)

def next? : Reader (Option Token) := return (← get).tokens.head?

def skip : Reader Unit := modify fun s => { s with tokens := s.tokens.drop 1 }

/-- A tag with its handle expanded; a tag that is no text counts as none. -/
def expandTag (owner : String) (suffix : List UInt8) : Reader (Option String) := do
  if owner.isEmpty then return (Text.Utf8.decode suffix).toOption
  else
    match (← get).scope.handles.lookup owner with
    | some expansion => return (Text.Utf8.decode (expansion ++ suffix)).toOption
    | none => throw .undefinedTagHandle

/-- Declares an anchor, if there is one, and answers the properties of its node. -/
def declare (tag anchor : Option String) : Reader Properties := do
  match anchor with
  | none => return { tag }
  | some name =>
    let (number, scope) := (← get).scope.declare name
    modify fun s => { s with scope }
    return { tag, anchor := some number }

/-- The tag and the anchor that stand here, in either order, and whether there is any. -/
def properties : Reader (Option String × Option String × Bool) := do
  match ← next? with
  | some (.anchor name) =>
    skip
    match ← next? with
    | some (.tag owner suffix) => do skip; return (← expandTag owner suffix, some name, true)
    | _ => return (none, some name, true)
  | some (.tag owner suffix) =>
    skip
    match ← next? with
    | some (.anchor name) => do skip; return (← expandTag owner suffix, some name, true)
    | _ => return (← expandTag owner suffix, none, true)
  | _ => return (none, none, false)

/-- A token that begins no node, where nodes are separated by indentation. -/
def endsBlockNode : Option Token → Bool
  | some .key | some .value | some .blockEnd => true
  | _ => false

mutual

/-- Reads a node. Blocks may begin only where `block`; a sequence whose hyphens stand at the column of
the mapping around it only where `hanging`. -/
def node (block hanging : Bool) : (fuel : Nat) → Reader Node
  | 0 => throw .missingNode
  | fuel + 1 => do
    match ← next? with
    | some (.alias name) =>
      skip
      match (← get).scope.anchors.lookup name with
      | some number => return .alias number
      | none => throw .unknownAnchor
    | _ =>
      let (tag, anchor, isMarked) ← properties
      match ← next? with
      | some (.scalar text isPlain) =>
        skip
        if tag = some "!" then return .scalar (← declare none anchor) text isPlain
        else return .scalar (← declare tag anchor) text isPlain
      | some .flowSequence =>
        let p ← declare tag anchor
        skip
        return .seq p (← flowItems fuel true)
      | some .flowMapping =>
        let p ← declare tag anchor
        skip
        return .map p (← flowEntries fuel true)
      | some .item =>
        if hanging then do
          let p ← declare tag anchor
          return .seq p (← hangingItems fuel)
        else if isMarked then return .scalar (← declare tag anchor) "" true
        else throw .missingNode
      | some .blockSequence =>
        if block then do
          let p ← declare tag anchor
          skip
          return .seq p (← blockItems fuel)
        else if isMarked then return .scalar (← declare tag anchor) "" true
        else throw .missingNode
      | some .blockMapping =>
        if block then do
          let p ← declare tag anchor
          skip
          return .map p (← blockEntries fuel)
        else if isMarked then return .scalar (← declare tag anchor) "" true
        else throw .missingNode
      | _ =>
        if isMarked then return .scalar (← declare tag anchor) "" true else throw .missingNode

/-- Reads the items of a block sequence and its end. -/
def blockItems : (fuel : Nat) → Reader (List Node)
  | 0 => throw .missingBlockEnd
  | fuel + 1 => do
    match ← next? with
    | some .item =>
      skip
      let first ← match ← next? with
        | some .item | some .blockEnd => pure .missing
        | _ => node true false fuel
      return first :: (← blockItems fuel)
    | some .blockEnd => skip; return []
    | _ => throw .missingBlockEnd

/-- Reads the items of a sequence that ends where no hyphen follows. -/
def hangingItems : (fuel : Nat) → Reader (List Node)
  | 0 => throw .missingBlockEnd
  | fuel + 1 => do
    match ← next? with
    | some .item =>
      skip
      let following ← next?
      let first ← if following == some .item || endsBlockNode following then pure .missing
        else node true false fuel
      return first :: (← hangingItems fuel)
    | _ => return []

/-- Reads the entries of a block mapping and its end. -/
def blockEntries : (fuel : Nat) → Reader (List (Node × Node))
  | 0 => throw .missingBlockEnd
  | fuel + 1 => do
    match ← next? with
    | some .key =>
      skip
      let k ← if endsBlockNode (← next?) then pure .missing else node true true fuel
      let v ← match ← next? with
        | some .value =>
          skip
          if endsBlockNode (← next?) then pure .missing else node true true fuel
        | _ => pure .missing
      return (k, v) :: (← blockEntries fuel)
    | some .blockEnd => skip; return []
    | _ => throw .missingBlockEnd

/-- Reads the items of a sequence in brackets and its closing bracket. A key in it begins a mapping of
one entry. -/
def flowItems : (fuel : Nat) → (isFirst : Bool) → Reader (List Node)
  | 0, _ => throw .missingSeparator
  | fuel + 1, isFirst => do
    if (← next?) == some .flowSequenceEnd then skip; return []
    else
      if !isFirst then
        if (← next?) == some .comma then skip else throw .missingSeparator
      match ← next? with
      | some .flowSequenceEnd => skip; return []
      | some .key =>
        skip
        let entry ← flowPair fuel
        return .map {} [entry] :: (← flowItems fuel false)
      | _ =>
        let first ← node false false fuel
        return first :: (← flowItems fuel false)

/-- Reads an entry without braces, behind its key mark. Where the key is left out, the token in its
place is passed over. -/
def flowPair : (fuel : Nat) → Reader (Node × Node)
  | 0 => throw .missingSeparator
  | fuel + 1 => do
    let k ← match ← next? with
      | some .value | some .comma | some .flowSequenceEnd => do skip; pure .missing
      | _ => node false false fuel
    match ← next? with
    | some .value =>
      skip
      match ← next? with
      | some .comma | some .flowSequenceEnd => return (k, .missing)
      | _ => return (k, ← node false false fuel)
    | _ => return (k, .missing)

/-- Reads the entries of a mapping in braces and its closing brace. -/
def flowEntries : (fuel : Nat) → (isFirst : Bool) → Reader (List (Node × Node))
  | 0, _ => throw .missingSeparator
  | fuel + 1, isFirst => do
    if (← next?) == some .flowMappingEnd then skip; return []
    else
      if !isFirst then
        if (← next?) == some .comma then skip else throw .missingSeparator
      match ← next? with
      | some .flowMappingEnd => skip; return []
      | some .key =>
        skip
        let k ← match ← next? with
          | some .value | some .comma | some .flowMappingEnd => pure .missing
          | _ => node false false fuel
        let v ← match ← next? with
          | some .value =>
            skip
            match ← next? with
            | some .comma | some .flowMappingEnd => pure .missing
            | _ => node false false fuel
          | _ => pure .missing
        return (k, v) :: (← flowEntries fuel false)
      | _ =>
        let k ← node false false fuel
        return (k, .missing) :: (← flowEntries fuel false)

end

/-! ## Documents -/

/-- The handles that every document has. -/
def defaultHandles : List (String × List UInt8) :=
  [("!", Text.Utf8.encode "!"), ("!!", Text.Utf8.encode "tag:yaml.org,2002:")]

/-- Reads the directives before a document. -/
def directives : (fuel : Nat) → (versionSeen : Bool) → Reader Unit
  | 0, _ => return
  | fuel + 1, versionSeen => do
    match ← next? with
    | some (.version major minor) =>
      if versionSeen then throw .duplicateDirective
      if major ≠ 1 ∨ (minor ≠ 1 ∧ minor ≠ 2) then throw .incompatibleVersion
      skip
      directives fuel true
    | some (.handle name expansion) =>
      let handles := (← get).scope.handles
      if (handles.lookup name).isSome then throw .duplicateDirective
      modify fun s => { s with scope := { s.scope with handles := (name, expansion) :: handles } }
      skip
      directives fuel versionSeen
    | _ =>
      modify fun s => { s with scope := { s.scope with handles := s.scope.handles ++ defaultHandles } }

def skipEnds : List Token → List Token
  | .documentEnd :: rest => skipEnds rest
  | tokens => tokens

/-- Reads the only document of a text, if there is any. -/
def document : Reader (Option Node) := do
  let fuel := 4 * (← get).tokens.length + 4
  let root ← match ← next? with
    | none => return none
    | some (.version ..) | some (.handle ..) | some .documentStart => do
      directives fuel false
      if (← next?) != some .documentStart then throw .missingDocumentStart
      skip
      match ← next? with
      | none | some (.version ..) | some (.handle ..) | some .documentStart | some .documentEnd =>
        pure .missing
      | _ => node true false fuel
    | _ => do
      directives fuel false
      node true false fuel
  modify fun s => { s with tokens := skipEnds s.tokens }
  match ← next? with
  | none => return some root
  | _ => throw .severalDocuments

end Grammar

/-- The root of the document that some tokens write; `none` if they write no document. -/
def Node.ofTokens (tokens : List Token) : Except Fault (Option Node) :=
  (Grammar.document.run ⟨tokens, {}⟩).map (·.1)

end ParamFile.Yaml
