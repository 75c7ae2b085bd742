/-!
# Places in a document text

A cursor is a place in a text: what is left, and where that is. Five characters end a line; a
carriage return with a line feed is one end. The two line separators beyond Latin-1 stay what they
are when a text is read, all other line ends become a line feed.
-/

namespace ParamFile.Yaml

/-! ## Classes of characters -/

def isSpacing (c : Char) : Bool := c == ' ' || c == '\t'

def isBreak (c : Char) : Bool :=
  c == '\n' || c == '\r' || c == '\u0085' || c == '\u2028' || c == '\u2029'

def isNameChar (c : Char) : Bool := c.isAlphanum || c == '_' || c == '-'

/-- A character that a document may hold. -/
def isAllowed (c : Char) : Bool :=
  let n := c.toNat
  n == 9 || n == 10 || n == 13 || (0x20 ≤ n && n ≤ 0x7E) || n == 0x85 ||
    (0xA0 ≤ n && n ≤ 0xD7FF) || (0xE000 ≤ n && n ≤ 0xFFFD) || 0x10000 ≤ n

/-- A space, a tab, a line end, or the end of the text. -/
def endsWord : Option Char → Bool
  | none => true
  | some c => isSpacing c || isBreak c

/-! ## Cursors -/

/-- A place in a text. -/
structure Cursor where
  rest : List Char
  /-- How many characters stand before. -/
  index : Nat := 0
  line : Nat := 0
  /-- How many of them stand in the same line. -/
  column : Nat := 0

namespace Cursor

def peek (c : Cursor) (n : Nat := 0) : Option Char := c.rest[n]?

def isAt (c : Cursor) (x : Char) : Bool := c.peek == some x

/-- Whether a space, tab, line end or the end of the text stands `n` places ahead. -/
def endsWordAt (c : Cursor) (n : Nat) : Bool := endsWord (c.peek n)

/-- The place `n` characters ahead in the same line. -/
def advance (c : Cursor) (n : Nat := 1) : Cursor :=
  { c with rest := c.rest.drop n, index := c.index + n, column := c.column + n }

/-- The characters up to the first that does not satisfy `p`, which is in the same line. -/
def takeWhile (c : Cursor) (p : Char → Bool) : List Char × Cursor :=
  let taken := c.rest.takeWhile p
  (taken, c.advance taken.length)

/-- The place behind the characters that satisfy `p`. -/
def skipWhile (c : Cursor) (p : Char → Bool) : Cursor := (c.takeWhile p).2

/-- The line end at this place as the text that it stands for, and the start of the next line. -/
def takeBreak (c : Cursor) : List Char × Cursor :=
  let next (n : Nat) (rest : List Char) : Cursor := ⟨rest, c.index + n, c.line + 1, 0⟩
  match c.rest with
  | '\r' :: '\n' :: rest => (['\n'], next 2 rest)
  | '\u2028' :: rest => (['\u2028'], next 1 rest)
  | '\u2029' :: rest => (['\u2029'], next 1 rest)
  | x :: rest => if isBreak x then (['\n'], next 1 rest) else ([], c)
  | [] => ([], c)

/-- Whether a line begins here with three times `x` as a word of its own. -/
def isIndicator (c : Cursor) (x : Char) : Bool :=
  c.column == 0 && c.peek == some x && c.peek 1 == some x && c.peek 2 == some x && c.endsWordAt 3

/-- Whether a document starts or ends here. -/
def isDocumentBoundary (c : Cursor) : Bool := c.isIndicator '-' || c.isIndicator '.'

end Cursor

/-! ## White space between words -/

/-- Spaces, tabs and line ends between two words. -/
structure Gap where
  /-- The spaces and tabs before the first line end. -/
  spaces : List Char := []
  /-- What the line ends stand for. -/
  breaks : List Char := []

/-- What a gap stands for in a scalar that is folded: one line end is a space, of several the first
is dropped. -/
def Gap.folded (g : Gap) : List Char :=
  match g.breaks with
  | [] => g.spaces
  | ['\n'] => [' ']
  | '\n' :: more => more
  | breaks => breaks

/-- Reads a gap. At a line start, `atStart`, and behind each line end, spaces and tabs are only
indentation; `none` when a tab stands there left of the column `indent`. -/
def Cursor.takeGap (indent : Nat) : (fuel : Nat) → (atStart : Bool) → Gap → Cursor →
    Option (Gap × Cursor)
  | 0, _, g, c => some (g, c)
  | fuel + 1, atStart, g, c =>
    match c.peek with
    | none => some (g, c)
    | some x =>
      if isSpacing x then
        if !atStart then takeGap indent fuel false { g with spaces := g.spaces ++ [x] } c.advance
        else if x = '\t' ∧ c.column < indent then none
        else takeGap indent fuel true g c.advance
      else if isBreak x then
        let (text, next) := c.takeBreak
        takeGap indent fuel true { g with breaks := g.breaks ++ text } next
      else some (g, c)

end ParamFile.Yaml
