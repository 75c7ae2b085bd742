import ParamFile.Text.Ranges
import ParamFile.Yaml.Cursor
import ParamFile.Yaml.Fault

/-!
# Quoted scalars

Between single quotes every character stands for itself and a quote is written twice; between double
quotes a backslash begins an escape. In both, line ends are folded, and a backslash before a line
end drops it.
-/

namespace ParamFile.Yaml.Quoted

open Text

/-- The character that one letter behind a backslash stands for. -/
def letterEscape? (c : Char) : Option Char :=
  match c with
  | '0' => some '\x00'
  | 'a' => some '\x07'
  | 'b' => some '\x08'
  | 't' => some '\t'
  | '\t' => some '\t'
  | 'n' => some '\n'
  | 'v' => some '\x0b'
  | 'f' => some '\x0c'
  | 'r' => some '\r'
  | 'e' => some '\x1b'
  | ' ' => some ' '
  | '"' => some '"'
  | '/' => some '/'
  | '\\' => some '\\'
  | 'N' => some '\u0085'
  | '_' => some '\u00a0'
  | 'L' => some '\u2028'
  | 'P' => some '\u2029'
  | _ => none

/-- How many hexadecimal digits follow a letter. -/
def digitCount? (c : Char) : Option Nat :=
  match c with
  | 'x' => some 2
  | 'u' => some 4
  | 'U' => some 8
  | _ => none

def isHexDigit (c : Char) : Bool :=
  c.isDigit || ('a' ≤ c && c ≤ 'f') || ('A' ≤ c && c ≤ 'F')

def charOfHex (digits : List Char) : Except Fault Char :=
  let n := digits.foldl (fun n c => 16 * n + Ranges.hexDigit c.toUpper) 0
  if !digits.all isHexDigit || (0xD800 ≤ n && n ≤ 0xDFFF) || 0x10FFFF < n then
    .error .malformedEscape
  else .ok (Char.ofNat n)

/-- Reads an escape, the place being behind its backslash. -/
def escape (c : Cursor) : Except Fault (Char × Cursor) :=
  match c.peek with
  | none => .error .malformedEscape
  | some x =>
    match letterEscape? x, digitCount? x with
    | some y, _ => .ok (y, c.advance)
    | none, some n =>
      let digits := c.advance.rest.take n
      if digits.length < n then .error .malformedEscape
      else (charOfHex digits).map fun y => (y, c.advance (n + 1))
    | none, none => .error .malformedEscape

/-- Reads characters up to white space or the closing quote; `out` is reversed. The answer says
whether a line end was dropped there. -/
def run (quote : Char) : (fuel : Nat) → (out : List Char) → Cursor →
    Except Fault (List Char × Bool × Cursor)
  | 0, out, c => .ok (out.reverse, false, c)
  | fuel + 1, out, c =>
    match c.peek with
    | none => .ok (out.reverse, false, c)
    | some x =>
      if endsWord (some x) then .ok (out.reverse, false, c)
      else if x = quote then
        if quote = '\'' ∧ c.peek 1 = some '\'' then run quote fuel ('\'' :: out) (c.advance 2)
        else .ok (out.reverse, false, c)
      else if quote = '"' ∧ x = '\\' then
        if (c.peek 1).any isBreak then .ok (out.reverse, true, c.advance.takeBreak.2)
        else
          match escape c.advance with
          | .error e => .error e
          | .ok (y, next) => run quote fuel (y :: out) next
      else run quote fuel (x :: out) c.advance

/-- Reads words and the gaps between them up to the closing quote. -/
def words (quote : Char) : (fuel : Nat) → (out : List Char) → Cursor →
    Except Fault (List Char × Cursor)
  | 0, _, _ => .error .unclosedQuote
  | fuel + 1, out, c =>
    if c.isDocumentBoundary then .error .indicatorInQuote
    else if c.rest.isEmpty then .error .unclosedQuote
    else
      match run quote (c.rest.length + 1) [] c with
      | .error e => .error e
      | .ok (word, dropped, next) =>
        let out := out ++ word
        if next.isAt quote then .ok (out, next.advance)
        else
          match next.takeGap 0 (next.rest.length + 1) dropped {} with
          | none => .error .tabInIndentation
          | some (gap, behind) =>
            words quote fuel (out ++ if dropped then gap.breaks else gap.folded) behind

/-- Reads a quoted scalar, the place being behind its opening quote. -/
def read (quote : Char) (c : Cursor) : Except Fault (String × Cursor) :=
  (words quote (c.rest.length + 1) [] c).map fun (text, next) => (.ofList text, next)

end ParamFile.Yaml.Quoted
