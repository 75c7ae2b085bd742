import ParamFile.Yaml.Cursor
import ParamFile.Yaml.Fault

/-!
# Plain scalars

A scalar without quotes goes on over spaces and line ends until something ends it: a colon before
white space, a number sign behind white space, a document indicator, a line that is not indented
far enough, or, inside brackets, a comma or a bracket. Line ends inside it are folded.
-/

namespace ParamFile.Yaml.Plain

def isFlowIndicator (c : Char) : Bool := c == ',' || c == '[' || c == ']' || c == '{' || c == '}'

/-- Whether a colon here, inside brackets, stands directly before another indicator. -/
def isMisplacedColon (c : Cursor) : Bool :=
  c.isAt ':' && (c.peek 1).any fun x => isFlowIndicator x || x == '?'

/-- Reads characters up to white space or to what ends the scalar; `out` is reversed. -/
def run (inFlow : Bool) : (fuel : Nat) → (out : List Char) → Cursor →
    Except Fault (List Char × Cursor)
  | 0, out, c => .ok (out.reverse, c)
  | fuel + 1, out, c =>
    match c.peek with
    | none => .ok (out.reverse, c)
    | some x =>
      if endsWord (some x) then .ok (out.reverse, c)
      else if inFlow && isMisplacedColon c then .error .misplacedColon
      else if (x = ':' && c.endsWordAt 1) || (inFlow && isFlowIndicator x) then
        .ok (out.reverse, c)
      else run inFlow fuel (x :: out) c.advance

/-- Reads words and the gaps between them. `gap` is the one behind what has been read; the answer
says whether the scalar ended behind a line end. -/
def words (inFlow : Bool) (indent : Nat) : (fuel : Nat) → (out : List Char) → Gap → Cursor →
    Except Fault (List Char × Bool × Cursor)
  | 0, out, gap, c => .ok (out, !gap.breaks.isEmpty, c)
  | fuel + 1, out, gap, c =>
    if c.isDocumentBoundary || c.isAt '#' then .ok (out, !gap.breaks.isEmpty, c)
    else
      match run inFlow (c.rest.length + 1) [] c with
      | .error e => .error e
      | .ok (word, next) =>
        let (out, gap) := if word.isEmpty then (out, gap) else (out ++ gap.folded ++ word, {})
        if !(next.peek.any fun x => isSpacing x || isBreak x) then
          .ok (out, !gap.breaks.isEmpty, next)
        else
          match next.takeGap indent (next.rest.length + 1) false {} with
          | none => .error .tabInIndentation
          | some (gap, behind) =>
            if !inFlow && behind.column < indent then .ok (out, !gap.breaks.isEmpty, behind)
            else words inFlow indent fuel out gap behind

/-- Reads a plain scalar; the answer says whether it ended behind a line end. -/
def read (inFlow : Bool) (indent : Nat) (c : Cursor) : Except Fault (String × Bool × Cursor) :=
  (words inFlow indent (c.rest.length + 1) [] {} c).map fun (text, atLineStart, next) =>
    (.ofList text, atLineStart, next)

end ParamFile.Yaml.Plain
