import ParamFile.Yaml.Style

/-!
# Writing a document

Collections are written as blocks, empty ones in brackets. Nested blocks are indented by two columns;
a sequence that is the value of a key is not indented. A key that is short and on one line is followed
by a colon; any other key is written behind a question mark and its value in a line of its own.
-/

namespace ParamFile.Yaml

/-! ## The page -/

/-- What has been written. -/
structure Page where
  /-- The characters, the last one first. -/
  reversed : List Char := []
  column : Nat := 0
  /-- Whether the next word needs no space before it. -/
  isSpaced : Bool := true
  /-- Whether only indentation and the marks of blocks stand in this line. -/
  isIndenting : Bool := true

namespace Page

def put (p : Page) (c : Char) : Page := { p with reversed := c :: p.reversed, column := p.column + 1 }

def puts (p : Page) (s : List Char) : Page := s.foldl put p

def newline (p : Page) : Page := { p with reversed := '\n' :: p.reversed, column := 0 }

/-- A line end of the text written. -/
def putBreak (p : Page) (c : Char) : Page :=
  if c = '\n' then p.newline else { p with reversed := c :: p.reversed, column := 0 }

/-- The beginning of a line at the given indentation. -/
def indentTo (p : Page) (indent : Int) : Page :=
  let n := indent.toNat
  let p := if !p.isIndenting || n < p.column || (p.column = n && !p.isSpaced) then p.newline else p
  { p.puts (List.replicate (n - p.column) ' ') with isSpaced := true, isIndenting := true }

/-- A mark written behind a space. -/
def mark (p : Page) (s : List Char) (keepsIndenting : Bool) : Page :=
  let p := if p.isSpaced then p else p.put ' '
  { p.puts s with isSpaced := false, isIndenting := p.isIndenting && keepsIndenting }

/-- A mark written without a space before it. -/
def attach (p : Page) (s : List Char) : Page :=
  { p.puts s with isSpaced := false, isIndenting := false }

/-! ## Scalars -/

/-- Some lines written, each at the indentation; `atStart` says that a line begins here. -/
def putLines (indent : Int) : (atStart : Bool) → List Char → Page → Page × Bool
  | atStart, [], p => (p, atStart)
  | atStart, c :: rest, p =>
    if isBreak c then putLines indent true rest { p.putBreak c with isIndenting := true }
    else
      let p := if atStart then p.indentTo indent else p
      putLines indent false rest { p.put c with isIndenting := false }

/-- What stands behind the mark of a literal block: how far it is indented, if its text begins with
white space, and what happens to the line ends at its end. -/
def literalHints (s : List Char) : List Char :=
  let indent := if s.head?.any fun c => c == ' ' || isBreak c then ['2'] else []
  let chomp := match s.reverse with
    | [] => ['-']
    | c :: before =>
      if !isBreak c then ['-'] else if before.head?.all isBreak then ['+'] else []
  indent ++ chomp

def putLiteral (p : Page) (indent : Int) (s : List Char) : Page :=
  let p := (p.mark ('|' :: literalHints s) false).newline
  (putLines indent true s { p with isIndenting := true, isSpaced := true }).1

def putSingle (p : Page) (indent : Int) (s : List Char) : Page :=
  let quoted := s.flatMap fun c => if c = '\'' then ['\'', '\''] else [c]
  let (p, atStart) := putLines indent false quoted (p.mark ['\''] false)
  (if atStart then p.indentTo indent else p).attach ['\'']

def putText (p : Page) (indent : Int) (text : String) : Page :=
  let s := text.toList
  match Style.ofText text with
  | .plain => p.mark s false
  | .single => p.putSingle indent s
  | .double => p.mark ('"' :: s.flatMap Style.doubleQuoted ++ ['"']) false
  | .literal => p.putLiteral indent s

def putTag (p : Page) : Option String → Page
  | none => p
  | some "!" => p.mark ('!' :: '<' :: Style.tagText "!" ++ ['>']) false
  | some name => p.mark ('!' :: Style.tagText name) false

end Page

/-! ## Trees -/

namespace Value

/-- The text of a scalar that is not a string. -/
def bareText : Value → String
  | .bool b => if b then "true" else "false"
  | .number n => n.text
  | _ => "null"

/-- How many bytes a key takes that can stand before a colon; `none` for any other key. -/
def keySize? : Value → Option Nat
  | .tagged t v => v.keySize?.map (· + 1 + t.utf8ByteSize)
  | .string s => if Style.isMultiline s.toList then none else some s.utf8ByteSize
  | .seq items => if items.isEmpty then some 0 else none
  | .map entries => if entries.isEmpty then some 0 else none
  | v => some v.bareText.utf8ByteSize

/-- Whether a key stands before a colon. -/
def isShortKey (k : Value) : Bool := k.keySize?.any (· ≤ 128)

/-- The indentation of a block inside another. -/
def inner (indent : Int) : Int := if indent < 0 then 0 else indent + 2

mutual

/-- Writes a tree inside a block with the given indentation; `inMapping` says that it is a key or a
value. -/
def print (indent : Int) (inMapping : Bool) (tag : Option String) : Value → Page → Page
  | .tagged t v, p => print indent inMapping (some t) v p
  | .string s, p => (p.putTag tag).putText (max (indent + 2) 2) s
  | .seq [], p => ((p.putTag tag).mark ['[', ']'] false)
  | .map [], p => ((p.putTag tag).mark ['\x7b', '\x7d'] false)
  | .seq (v :: rest), p =>
    let p := p.putTag tag
    printItems (if inMapping && !p.isIndenting && 0 ≤ indent then indent else inner indent) (v :: rest) p
  | .map (e :: rest), p => printEntries (inner indent) (e :: rest) (p.putTag tag)
  | v, p => (p.putTag tag).mark v.bareText.toList false

def printItems (indent : Int) : List Value → Page → Page
  | [], p => p
  | v :: rest, p =>
    printItems indent rest (print indent false none v ((p.indentTo indent).mark ['-'] true))

def printEntries (indent : Int) : List (Value × Value) → Page → Page
  | [], p => p
  | (k, v) :: rest, p =>
    let p := p.indentTo indent
    let p :=
      if k.isShortKey then (print indent true none k p).attach [':']
      else ((print indent true none k (p.mark ['?'] true)).indentTo indent).mark [':'] true
    printEntries indent rest (print indent true none v p)

end

def toText (v : Value) : String :=
  .ofList ((v.print (-1) false none {}).indentTo 0).reversed.reverse

end Value

end ParamFile.Yaml
