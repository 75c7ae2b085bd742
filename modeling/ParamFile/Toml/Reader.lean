import ParamFile.Toml.Literal

/-!
# Reading a text of settings

A text is a list of lines: a header opens a table, and the lines behind it give values to keys in that
table. Values in brackets may go on over several lines.
-/

namespace ParamFile.Toml

/-! ## White space -/

/-- The text behind spaces and tabs. -/
def skipSpacing (s : List Char) : List Char := s.dropWhile fun c => c == ' ' || c == '\t'

/-- The text behind a comment, if one begins here. -/
def skipComment (s : List Char) : Except Fault (List Char) :=
  match s with
  | '#' :: rest =>
    let comment := rest.takeWhile isStringChar
    let behind := rest.drop comment.length
    if behind.isEmpty || (behindBreak? behind).isSome then .ok behind else .error .forbiddenCharacter
  | s => .ok s

/-- The text behind white space, comments and line ends. -/
def skipLines : (fuel : Nat) → List Char → Except Fault (List Char)
  | 0, s => .ok s
  | fuel + 1, s => do
    let s ← skipComment (skipSpacing s)
    match behindBreak? s with
    | some rest => skipLines fuel rest
    | none => return s

/-! ## Keys -/

/-- How deeply keys and values may be nested. -/
def greatestDepth : Nat := 80

def isKeyChar (c : Char) : Bool := c.isAlphanum || c == '_' || c == '-'

def takeKeyPart (s : List Char) : Except Fault (String × List Char) :=
  match s with
  | '"' :: rest => shortString '"' (rest.length + 1) [] rest
  | '\'' :: rest => shortString '\'' (rest.length + 1) [] rest
  | s =>
    let name := s.takeWhile isKeyChar
    if name.isEmpty then .error .malformedKey else .ok (.ofList name, s.dropWhile isKeyChar)

/-- The parts of a key behind its first. -/
def takeKeyParts : (fuel : Nat) → (before : List String) → (last : String) → List Char →
    Except Fault (List String × String × List Char)
  | 0, _, _, _ => .error .tooDeep
  | fuel + 1, before, last, s =>
    match skipSpacing s with
    | '.' :: rest => do
      let (next, rest) ← takeKeyPart (skipSpacing rest)
      takeKeyParts fuel (before ++ [last]) next rest
    | rest => .ok (before, last, rest)

/-- A key as the path to a table and a name in it, with the text behind it. -/
def takeKey (s : List Char) : Except Fault (List String × String × List Char) := do
  let (first, rest) ← takeKeyPart (skipSpacing s)
  takeKeyParts (greatestDepth - 1) [] first rest

/-! ## Values -/

mutual

def takeValue (depth : Nat) : (fuel : Nat) → List Char → Except Fault (Value × List Char)
  | 0, _ => .error .unexpectedEnd
  | fuel + 1, s =>
    match s with
    | [] => .error .unexpectedEnd
    | c :: rest =>
      if c = '"' ∨ c = '\'' then (takeString s).map fun (text, rest) => (.string text, rest)
      else if c = '[' then
        if greatestDepth ≤ depth + 1 then .error .tooDeep
        else takeItems (depth + 1) fuel [] rest
      else if c = '\x7b' then
        if greatestDepth ≤ depth + 1 then .error .tooDeep
        else
          match skipSpacing rest with
          | '\x7d' :: rest => .ok (.table .inline [], rest)
          | rest => takeEntries (depth + 1) fuel [] rest
      else
        let (word, rest) := takeWord s
        (wordValue word).map fun v => (v, rest)

/-- Reads the items of an array and its closing bracket. -/
def takeItems (depth : Nat) : (fuel : Nat) → (items : List Value) → List Char →
    Except Fault (Value × List Char)
  | 0, _, _ => .error .unexpectedEnd
  | fuel + 1, items, s => do
    let s ← skipLines (s.length + 1) s
    match s with
    | ']' :: rest => return (.array items, rest)
    | s =>
      let (v, rest) ← takeValue depth fuel s
      let rest ← skipLines (rest.length + 1) rest
      match rest with
      | ',' :: rest => takeItems depth fuel (items ++ [v]) rest
      | ']' :: rest => return (.array (items ++ [v]), rest)
      | _ => .error .unexpectedCharacter

/-- Reads the entries of a table in braces and its closing brace. -/
def takeEntries (depth : Nat) : (fuel : Nat) → Table → List Char → Except Fault (Value × List Char)
  | 0, _, _ => .error .unexpectedEnd
  | fuel + 1, t, s => do
    let (path, name, rest) ← takeKey s
    match rest with
    | '=' :: rest =>
      let (v, rest) ← takeValue depth fuel (skipSpacing rest)
      let t ← t.assign path name v
      match skipSpacing rest with
      | ',' :: rest => takeEntries depth fuel t rest
      | '\x7d' :: rest => return (.table .inline t, rest)
      | _ => .error .unexpectedCharacter
    | _ => .error .unexpectedCharacter

end

/-! ## Lines -/

/-- What has been read: all tables, and the one to which the next lines belong. -/
structure Sheet where
  root : Table := []
  current : List String := []

/-- Gives a value to a key of the current table. -/
def Sheet.assign (s : Sheet) (path : List String) (name : String) (v : Value) : Except Fault Sheet := do
  let root ← Table.change .implied (fun _ t => t.assign path name v) s.current .opened s.root
  return { s with root }

/-- Reads a header, whose opening bracket stands here. -/
def Sheet.takeHeader (s : Sheet) (text : List Char) : Except Fault (Sheet × List Char) :=
  match text with
  | '[' :: '[' :: rest => do
    let (path, name, rest) ← takeKey rest
    match rest with
    | ']' :: ']' :: rest => return (⟨← s.root.openNext path name, path ++ [name]⟩, rest)
    | _ => .error .unexpectedCharacter
  | _ => do
    let (path, name, rest) ← takeKey (text.drop 1)
    match rest with
    | ']' :: rest => return (⟨← s.root.openTable path name, path ++ [name]⟩, rest)
    | _ => .error .unexpectedCharacter

def Sheet.takeAssignment (s : Sheet) (text : List Char) : Except Fault (Sheet × List Char) := do
  let (path, name, rest) ← takeKey text
  match rest with
  | '=' :: rest =>
    let (v, rest) ← takeValue 0 (rest.length + 1) (skipSpacing rest)
    return (← s.assign path name v, rest)
  | _ => .error .unexpectedCharacter

def Sheet.takeLines : (fuel : Nat) → Sheet → List Char → Except Fault Sheet
  | 0, _, _ => .error .unexpectedEnd
  | fuel + 1, s, text => do
    match ← skipLines (text.length + 1) text with
    | [] => return s
    | c :: rest =>
      let (s, rest) ← if c = '[' then s.takeHeader (c :: rest) else s.takeAssignment (c :: rest)
      let rest ← skipComment (skipSpacing rest)
      match rest, behindBreak? rest with
      | [], _ => return s
      | _, some rest => takeLines fuel s rest
      | _, none => .error .unexpectedCharacter

/-- Reads a text of settings. A mark of the byte order may stand at its beginning. -/
def Table.ofText (text : String) : Except Fault Table :=
  let chars := match text.toList with
    | '\uFEFF' :: rest => rest
    | chars => chars
  (Sheet.takeLines (chars.length + 1) {} chars).map (·.root)

end ParamFile.Toml
