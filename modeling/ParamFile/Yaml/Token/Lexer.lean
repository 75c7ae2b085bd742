import ParamFile.Yaml.Block
import ParamFile.Yaml.Plain
import ParamFile.Yaml.Quoted
import ParamFile.Yaml.Token.Tag

/-!
# From text to tokens

Indentation opens and closes blocks. A key is recognised only at the colon behind it: whatever may
turn out to be a key is remembered as a candidate, one for each level of brackets, and when the colon
comes, the key token, and where needed the beginning of a mapping, are put in front of it. A
candidate lapses at the end of its line and after 1024 characters; one that begins a line of a block
mapping must be followed by a colon.
-/

namespace ParamFile.Yaml

namespace Lexer

/-! ## State -/

/-- Something that may turn out to be a key. -/
structure Candidate where
  /-- Whether a colon must follow. -/
  isRequired : Bool
  /-- How many tokens stand before it. -/
  position : Nat
  start : Cursor

/-- Where reading stands. -/
structure State where
  cursor : Cursor
  /-- The tokens read so far, the last one first. -/
  tokens : List Token := []
  /-- The column of the innermost block, or -1 outside all blocks. -/
  indent : Int := -1
  /-- The columns of the blocks around it. -/
  outer : List Int := []
  /-- The candidate of the innermost level of brackets. -/
  candidate : Option Candidate := none
  /-- The candidates of the levels around it; there is one for each open bracket. -/
  suspended : List (Option Candidate) := []
  /-- Whether a key may begin here. -/
  keyAllowed : Bool := true

/-- Inside brackets indentation does not count. -/
def State.inFlow (s : State) : Bool := !s.suspended.isEmpty

/-- The state with a token added behind the others. -/
def State.push (s : State) (t : Token) : State := { s with tokens := t :: s.tokens }

/-- The state with a token put behind the first `position` tokens. -/
def State.pushAt (s : State) (position : Nat) (t : Token) : State :=
  let behind := s.tokens.length - position
  { s with tokens := s.tokens.take behind ++ t :: s.tokens.drop behind }

/-! ## Candidates -/

/-- The state without a candidate; one that must be followed by a colon cannot be dropped. -/
def State.dropCandidate (s : State) : Except Fault State :=
  if s.candidate.any (·.isRequired) then .error .missingColon
  else .ok { s with candidate := none }

/-- What comes next may turn out to be a key. -/
def State.addCandidate (s : State) : Except Fault State :=
  if !s.keyAllowed then .ok s
  else do
    let s ← s.dropCandidate
    let isRequired := !s.inFlow && s.indent == s.cursor.column
    return { s with candidate := some ⟨isRequired, s.tokens.length, s.cursor⟩ }

/-- Whether a candidate lies too far back. -/
def Candidate.hasLapsed (k : Candidate) (c : Cursor) : Bool :=
  k.start.line < c.line || k.start.index + 1024 < c.index

/-- The candidate, if it has not lapsed. -/
def lapse (c : Cursor) : Option Candidate → Except Fault (Option Candidate)
  | none => .ok none
  | some k =>
    if !k.hasLapsed c then .ok (some k)
    else if k.isRequired then .error .missingColon
    else .ok none

/-- The state without the candidates that have lapsed. -/
def State.dropLapsed (s : State) : Except Fault State := do
  let candidate ← lapse s.cursor s.candidate
  let suspended ← s.suspended.mapM (lapse s.cursor)
  return { s with candidate, suspended }

/-! ## Blocks -/

/-- Closes the blocks that begin right of the column. -/
def closeBlocks (column : Int) : (indent : Int) → (outer : List Int) → List Token →
    Int × List Int × List Token
  | indent, [], tokens => (indent, [], tokens)
  | indent, next :: outer, tokens =>
    if column < indent then closeBlocks column next outer (.blockEnd :: tokens)
    else (indent, next :: outer, tokens)

/-- The state with the blocks closed that begin right of the column. -/
def State.unindent (s : State) (column : Int) : State :=
  if s.inFlow then s
  else
    let (indent, outer, tokens) := closeBlocks column s.indent s.outer s.tokens
    { s with indent, outer, tokens }

/-- The state with a block opened at the column, if none is open there; its token is put behind the
first `position` tokens. -/
def State.openBlock (s : State) (column position : Nat) (t : Token) : State :=
  if s.inFlow || column ≤ s.indent then s
  else { s.pushAt position t with indent := column, outer := s.indent :: s.outer }

/-- The state with a block opened here, if none is open at this column. -/
def State.openBlockHere (s : State) (t : Token) : State :=
  s.openBlock s.cursor.column s.tokens.length t

/-! ## Space between tokens -/

/-- Skips white space, comments and line ends up to the next token. A tab counts as white space only
where it cannot be taken for indentation. -/
def State.skipSpace : (fuel : Nat) → State → State
  | 0, s => s
  | fuel + 1, s =>
    let c := s.cursor
    let c := if c.column = 0 ∧ c.isAt '\uFEFF' then c.advance else c
    let tabs := s.inFlow || !s.keyAllowed
    let c := c.skipWhile fun x => x == ' ' || (tabs && x == '\t')
    let c := if c.isAt '#' then c.skipWhile (!isBreak ·) else c
    if c.peek.any isBreak then
      skipSpace fuel { s with cursor := c.takeBreak.2, keyAllowed := s.keyAllowed || !s.inFlow }
    else { s with cursor := c }

/-! ## Single tokens -/

/-- A token of some characters, from which no key can begin. -/
def State.mark (s : State) (width : Nat) (t : Token) (keyAllowed : Bool) : State :=
  { s.push t with cursor := s.cursor.advance width, keyAllowed }

/-- A token at the start of a line that belongs to no block. -/
def State.outside (s : State) : Except Fault State := do
  let s ← (s.unindent (-1)).dropCandidate
  return { s with keyAllowed := false }

def State.openBracket (s : State) (t : Token) : Except Fault State := do
  let s ← s.addCandidate
  return { s with suspended := s.candidate :: s.suspended, candidate := none }.mark 1 t true

def State.closeBracket (s : State) (t : Token) : Except Fault State := do
  let s ← s.dropCandidate
  let s := match s.suspended with
    | candidate :: suspended => { s with candidate, suspended }
    | [] => s
  return s.mark 1 t false

def State.item (s : State) : Except Fault State := do
  if !s.inFlow && !s.keyAllowed then .error .misplacedIndicator
  let s ← (s.openBlockHere .blockSequence).dropCandidate
  return s.mark 1 .item true

def State.key (s : State) : Except Fault State := do
  if !s.inFlow && !s.keyAllowed then .error .misplacedIndicator
  let s ← (s.openBlockHere .blockMapping).dropCandidate
  return s.mark 1 .key (!s.inFlow)

def State.value (s : State) : Except Fault State :=
  match s.candidate with
  | some k =>
    let s := (s.pushAt k.position .key).openBlock k.start.column k.position .blockMapping
    .ok ({ s with candidate := none }.mark 1 .value false)
  | none =>
    if !s.inFlow && !s.keyAllowed then .error .misplacedIndicator
    else .ok ((s.openBlockHere .blockMapping).mark 1 .value (!s.inFlow))

/-- A token that can be a key or begin one. -/
def State.keyLike (s : State) (read : Cursor → Except Fault (Token × Cursor)) : Except Fault State := do
  let s ← s.addCandidate
  let (t, cursor) ← read s.cursor
  return { s.push t with cursor, keyAllowed := false }

def State.block (s : State) (folded : Bool) : Except Fault State := do
  let s ← s.dropCandidate
  let (text, cursor) ← Block.read folded s.indent s.cursor.advance
  return { s.push (.scalar text false) with cursor, keyAllowed := true }

def State.plain (s : State) : Except Fault State := do
  let s ← s.addCandidate
  let (text, atLineStart, cursor) ← Plain.read s.inFlow (s.indent + 1).toNat s.cursor
  return { s.push (.scalar text true) with cursor, keyAllowed := atLineStart }

/-- The characters that cannot begin a plain scalar. -/
def indicators : List Char :=
  ['-', '?', ':', ',', '[', ']', '{', '}', '#', '&', '*', '!', '|', '>', '\'', '"', '%', '@', '\x60']

def State.beginsPlain (s : State) : Bool :=
  match s.cursor.peek with
  | none => false
  | some x =>
    (!endsWord (some x) && !indicators.contains x) ||
      (x == '-' && !(s.cursor.peek 1).any isSpacing) ||
      (!s.inFlow && (x == '?' || x == ':') && !s.cursor.endsWordAt 1)

/-- Reads the token that begins here, the text not being at its end. -/
def State.token (s : State) : Except Fault State :=
  let c := s.cursor
  let c1 := c.endsWordAt 1
  if c.column == 0 && c.isAt '%' then do
    let s ← s.outside
    let (t, cursor) ← Token.takeDirective s.cursor
    return { s.push t with cursor }
  else if c.isIndicator '-' then do return (← s.outside).mark 3 .documentStart false
  else if c.isIndicator '.' then do return (← s.outside).mark 3 .documentEnd false
  else
    match c.peek with
    | some '[' => s.openBracket .flowSequence
    | some '{' => s.openBracket .flowMapping
    | some ']' => s.closeBracket .flowSequenceEnd
    | some '}' => s.closeBracket .flowMappingEnd
    | some ',' => do return (← s.dropCandidate).mark 1 .comma true
    | some '*' => s.keyLike fun c => (Token.takeName c).map fun (n, next) => (.alias n, next)
    | some '&' => s.keyLike fun c => (Token.takeName c).map fun (n, next) => (.anchor n, next)
    | some '!' => s.keyLike (Token.takeTag s.inFlow)
    | some '\'' =>
      s.keyLike fun c => (Quoted.read '\'' c.advance).map fun (t, next) => (.scalar t false, next)
    | some '"' =>
      s.keyLike fun c => (Quoted.read '"' c.advance).map fun (t, next) => (.scalar t false, next)
    | some x =>
      if x == '-' && c1 then s.item
      else if x == '?' && (s.inFlow || c1) then s.key
      else if x == ':' && (s.inFlow || c1) then s.value
      else if x == '|' && !s.inFlow then s.block false
      else if x == '>' && !s.inFlow then s.block true
      else if s.beginsPlain then s.plain
      else .error .unknownToken
    | none => .error .unknownToken

/-! ## Whole texts -/

/-- Reads tokens up to the end of the text. -/
def State.run : (fuel : Nat) → State → Except Fault State
  | 0, s => .ok s
  | fuel + 1, s => do
    let s ← (s.skipSpace (s.cursor.rest.length + 1)).dropLapsed
    let s := s.unindent s.cursor.column
    if s.cursor.rest.isEmpty then (s.unindent (-1)).dropCandidate
    else run fuel (← s.token)

end Lexer

/-- The tokens of a text. A mark of the byte order may stand at its beginning. -/
def Token.ofText (text : String) : Except Fault (List Token) :=
  let chars := match text.toList with
    | '\uFEFF' :: rest => rest
    | chars => chars
  if !chars.all isAllowed then .error .forbiddenCharacter
  else (Lexer.State.run (chars.length + 1) { cursor := { rest := chars } }).map (·.tokens.reverse)

end ParamFile.Yaml
