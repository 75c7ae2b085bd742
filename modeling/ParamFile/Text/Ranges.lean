/-!
# Sets of characters as ranges

A set of characters given by inclusive ranges of code points, and the notation in which the tables
of this library write one: hexadecimal code points or `low-high` pairs, separated by blanks.
-/

namespace ParamFile.Text

/-- Inclusive ranges of code points. -/
abbrev Ranges := List (Nat × Nat)

namespace Ranges

/-- Membership of a character in one of the ranges. -/
def contains (r : Ranges) (c : Char) : Bool :=
  r.any fun (low, high) => low ≤ c.toNat && c.toNat ≤ high

/-! ## Notation -/

/-- The value of a hexadecimal digit written in upper case; other characters count as zero. -/
def hexDigit (c : Char) : Nat :=
  if c.isDigit then c.toNat - 48 else if 'A' ≤ c && c ≤ 'F' then c.toNat - 55 else 0

/-- The code point written in hexadecimal. -/
def codePoint (s : String) : Nat := s.toList.foldl (fun n c => 16 * n + hexDigit c) 0

/-- One range: `C0-D6`, or `AA` for a single code point. -/
def ofWord (word : String) : Nat × Nat :=
  match word.splitOn "-" with
  | [low, high] => (codePoint low, codePoint high)
  | _ => (codePoint word, codePoint word)

/-- The ranges written on some lines of a table. -/
def ofText (lines : List String) : Ranges :=
  lines.flatMap fun line => (line.splitOn " ").map ofWord

end Ranges

end ParamFile.Text
