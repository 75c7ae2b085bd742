import ParamFile.Yaml.Cursor
import ParamFile.Yaml.Fault

/-!
# Block scalars

A block scalar holds the lines that are indented further than what surrounds it. Its header says how
far, and what happens to the line ends behind the last line: one is kept, or none, or all. In a
literal block every line end stays; in a folded one a line end between two lines that do not begin
with white space becomes a space.
-/

namespace ParamFile.Yaml.Block

/-- What happens to the line ends behind the last line. -/
inductive Chomp where
  /-- The line's own end is kept. -/
  | clip
  | strip
  | keep
  deriving DecidableEq, Repr

/-- What the header of a block says. -/
structure Header where
  chomp : Chomp := .clip
  /-- How far the lines are indented beyond what surrounds them. -/
  indent? : Option Nat := none

/-- Reads a sign that says what happens to the line ends. -/
def Header.takeChomp (h : Header) (c : Cursor) : Header × Cursor :=
  if c.isAt '+' then ({ h with chomp := .keep }, c.advance)
  else if c.isAt '-' then ({ h with chomp := .strip }, c.advance)
  else (h, c)

/-- Reads a digit that says how far the lines are indented; it is not zero. -/
def Header.takeIndent (h : Header) (c : Cursor) : Except Fault (Header × Cursor) :=
  match c.peek with
  | some x =>
    if x = '0' then .error .malformedBlockHeader
    else if x.isDigit then .ok ({ h with indent? := some (x.toNat - 48) }, c.advance)
    else .ok (h, c)
  | none => .ok (h, c)

/-- Reads the header, in which sign and digit stand in either order, up to the end of its line. -/
def header (c : Cursor) : Except Fault (Header × Cursor) := do
  let (h, next) := Header.takeChomp {} c
  let (h, next) ← h.takeIndent next
  let (h, next) := if h.chomp = .clip then h.takeChomp next else (h, next)
  let next := next.skipWhile isSpacing
  let next := if next.isAt '#' then next.skipWhile (!isBreak ·) else next
  if next.rest.isEmpty || next.peek.any isBreak then return (h, next.takeBreak.2)
  else .error .malformedBlockHeader

/-- Reads empty lines and the indentation of the line behind them. `indent` is where the lines of
the block begin, if that is known; `widest` is how far white space reaches in the lines so far. -/
def emptyLines (indent : Option Nat) : (fuel : Nat) → (breaks : List Char) → (widest : Nat) →
    Cursor → Except Fault (List Char × Nat × Cursor)
  | 0, breaks, widest, c => .ok (breaks, widest, c)
  | fuel + 1, breaks, widest, c =>
    let room := indent.elim c.rest.length (· - c.column)
    let spaces := ((c.rest.take room).takeWhile (· == ' ')).length
    let next := c.advance spaces
    let widest := max widest next.column
    if next.isAt '\t' && indent.all (next.column < ·) then .error .tabInIndentation
    else if next.peek.any isBreak then
      let (text, behind) := next.takeBreak
      emptyLines indent fuel (breaks ++ text) widest behind
    else .ok (breaks, widest, next)

/-- The text of a block that is being read. -/
structure Body where
  text : List Char := []
  /-- The end of the last line. -/
  lineEnd : List Char := []
  /-- The line ends of the empty lines behind it. -/
  breaks : List Char := []
  /-- Whether the last line begins with white space. -/
  isSpaced : Bool := false

/-- The text up to the beginning of another line, which begins with white space if `spaced`. -/
def Body.joined (folded : Bool) (b : Body) (spaced : Bool) : List Char :=
  if folded && b.lineEnd.head? == some '\n' && !b.isSpaced && !spaced then
    if b.breaks.isEmpty then b.text ++ [' '] else b.text ++ b.breaks
  else b.text ++ b.lineEnd ++ b.breaks

/-- Reads the lines that begin at the column `indent`. -/
def lines (folded : Bool) (indent : Nat) : (fuel : Nat) → Body → Cursor → Except Fault (Body × Cursor)
  | 0, b, c => .ok (b, c)
  | fuel + 1, b, c =>
    if c.column != indent || c.rest.isEmpty then .ok (b, c)
    else
      let spaced := c.peek.any isSpacing
      let (line, next) := c.takeWhile (!isBreak ·)
      let (lineEnd, next) := next.takeBreak
      match emptyLines (some indent) (next.rest.length + 1) [] 0 next with
      | .error e => .error e
      | .ok (breaks, _, behind) =>
        lines folded indent fuel ⟨b.joined folded spaced ++ line, lineEnd, breaks, spaced⟩ behind

/-- Reads a block scalar behind its mark. `outer` is the indentation of what surrounds it, less than
zero outside all blocks. -/
def read (folded : Bool) (outer : Int) (c : Cursor) : Except Fault (String × Cursor) := do
  let (h, start) ← header c
  let base := outer.toNat
  let given := h.indent?.map (base + ·)
  let (breaks, widest, first) ← emptyLines given (start.rest.length + 1) [] 0 start
  let indent := given.getD (max widest (max (outer + 1).toNat 1))
  let (b, behind) ← lines folded indent (first.rest.length + 1) { breaks } first
  let text := match h.chomp with
    | .strip => b.text
    | .clip => b.text ++ b.lineEnd
    | .keep => b.text ++ b.lineEnd ++ b.breaks
  return (.ofList text, behind)

end ParamFile.Yaml.Block
