import ParamFile.Text.Word

/-!
# Regular expressions and what they match

An expression denotes a relation between positions of a text: from which position to which it can
read. Sets of positions are natural numbers read as bit sets, position `i` being bit `i`, so that
`ends text e s` is the set of positions at which `e` can stop when it starts at some position in `s`.
An expression occurs in a text when it can start anywhere and stop somewhere (`occursIn`).
-/

namespace ParamFile.Pattern

open Text

/-- A set of characters, as its membership test. -/
abbrev CharSet := Char → Bool

/-- Conditions on a position of the text. -/
inductive Look where
  | textStart
  | textEnd
  /-- After a line feed or at the start. -/
  | lineStart
  /-- Before a line feed or at the end. -/
  | lineEnd
  /-- After a line break at the start of a line; a carriage return with a line feed is one break. -/
  | lineStartBreak
  | lineEndBreak
  /-- Between a character in the set and one that is not, or the other way round. -/
  | boundary (word : CharSet)
  | notBoundary (word : CharSet)
  | wordStart (word : CharSet)
  | wordEnd (word : CharSet)
  /-- No character of the set before. -/
  | wordStartHalf (word : CharSet)
  /-- No character of the set behind. -/
  | wordEndHalf (word : CharSet)

/-- Whether a condition holds between the characters `before` and `behind`. -/
def Look.holds (before behind : Option Char) : Look → Bool
  | .textStart => before.isNone
  | .textEnd => behind.isNone
  | .lineStart => before.all (· == '\n')
  | .lineEnd => behind.all (· == '\n')
  | .lineStartBreak =>
    before.all (· == '\n') || (before == some '\r' && behind != some '\n')
  | .lineEndBreak =>
    behind.all (· == '\r') || (behind == some '\n' && before != some '\r')
  | .boundary word => before.any word != behind.any word
  | .notBoundary word => before.any word == behind.any word
  | .wordStart word => !before.any word && behind.any word
  | .wordEnd word => before.any word && !behind.any word
  | .wordStartHalf word => !before.any word
  | .wordEndHalf word => !behind.any word

/-- A regular expression. -/
inductive Expr where
  | empty
  | set (s : CharSet)
  | look (l : Look)
  | seq (a b : Expr)
  | alt (a b : Expr)
  /-- At least `least` and, when bounded, at most `most` times. -/
  | repeated (e : Expr) (least : Nat) (most : Option Nat)

/-! ## Positions -/

/-- The positions at which a character of the set stands. -/
def positions (s : CharSet) : List Char → Nat
  | [] => 0
  | c :: rest => 2 * positions s rest + (if s c then 1 else 0)

/-- The positions at which a condition holds, `before` being the character before the text. -/
def lookPositions (l : Look) : (before : Option Char) → List Char → Nat
  | before, [] => if l.holds before none then 1 else 0
  | before, c :: rest =>
    2 * lookPositions l (some c) rest + (if l.holds before (some c) then 1 else 0)

/-- What `step` reaches from `s` in exactly `n` steps. -/
def iterate (step : Nat → Nat) : Nat → Nat → Nat
  | 0, s => s
  | n + 1, s => if s = 0 then 0 else iterate step n (step s)

/-- What `step` reaches from `seen` in at most `n` steps, `new` being what the last step added. -/
def reach (step : Nat → Nat) : (n : Nat) → (new seen : Nat) → Nat
  | 0, _, seen => seen
  | n + 1, new, seen =>
    let next := step new
    let added := next ^^^ (next &&& seen)
    if added = 0 then seen else reach step n added (seen ||| added)

/-! ## Matching -/

namespace Expr

/-- The positions at which an expression can stop when it starts at a position in `s`. -/
def ends (text : List Char) : Expr → Nat → Nat
  | .empty, s => s
  | .set p, s => 2 * (s &&& positions p text)
  | .look l, s => s &&& lookPositions l none text
  | .seq a b, s => b.ends text (a.ends text s)
  | .alt a b, s => a.ends text s ||| b.ends text s
  | .repeated e least most, s =>
    let s := iterate (e.ends text) least s
    reach (e.ends text) (most.elim (text.length + 1) (· - least)) s s

/-- Whether some part of the text matches. -/
def occursIn (e : Expr) (text : List Char) : Bool :=
  e.ends text (Nat.pow 2 (text.length + 1) - 1) != 0

/-! ## Size -/

/-- The expression reads no character. -/
def isWidthless : Expr → Bool
  | .empty | .look _ => true
  | .set _ => false
  | .seq a b | .alt a b => a.isWidthless && b.isWidthless
  | .repeated e _ most => most == some 0 || e.isWidthless

/-- A repetition; repeating what reads no character more than once changes nothing. -/
def times (e : Expr) (least : Nat) (most : Option Nat) : Expr :=
  if e.isWidthless then .repeated e (min least 1) (some (min (most.getD 1) 1))
  else .repeated e least most

/-- How many steps the expression has when its repetitions are written out. -/
def size : Expr → Nat
  | .empty | .look _ | .set _ => 1
  | .seq a b | .alt a b => a.size + b.size + 1
  | .repeated e least most => e.size * (max (most.getD least) 1) + 1

end Expr

end ParamFile.Pattern
