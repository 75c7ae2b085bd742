import ParamFile.Text.Utf8
import ParamFile.Yaml.Cursor
import ParamFile.Yaml.Scalar

/-!
# How a text is written as a scalar

A text with a line feed is written as a literal block, a text that would read as something else
between single quotes, every other text plain. Where the characters of the text do not permit that,
the next in the row plain, single quotes, double quotes is taken; a literal block falls back to double
quotes.
-/

namespace ParamFile.Yaml

/-- The ways to write a scalar. -/
inductive Style where
  | plain
  | single
  | double
  | literal
  deriving DecidableEq, Repr

namespace Style

/-- A character that is written as it is. -/
def isPrintable (c : Char) : Bool :=
  let n := c.toNat
  n == 0x0A || (0x20 ≤ n && n ≤ 0x7E) || (0xA0 ≤ n && n ≤ 0xD7FF) ||
    (0xE000 ≤ n && n ≤ 0xFFFD && n ≠ 0xFEFF)

/-- Whether a character ends a word, or is none. -/
def endsWordOrNone (c : Option Char) : Bool := endsWord c || c == some '\x00'

/-- Characters that cannot begin a plain scalar. -/
def initialIndicators : List Char :=
  ['#', ',', '[', ']', '{', '}', '&', '*', '!', '|', '>', '\'', '"', '%', '@', '\x60']

/-- Whether the first character, followed by `next`, is an indicator. -/
def isInitialIndicator (c : Char) (next : Option Char) : Bool :=
  initialIndicators.contains c ||
    ((c == '?' || c == ':' || c == '-') && endsWordOrNone next)

/-- Whether a character behind the first, between `before` and `next`, is an indicator. -/
def isInnerIndicator (before c : Char) (next : Option Char) : Bool :=
  (c == ':' && endsWordOrNone next) || (c == '#' && endsWordOrNone (some before))

/-- Whether an indicator stands behind the first character. -/
def hasInnerIndicator : List Char → Bool
  | before :: c :: rest => isInnerIndicator before c rest.head? || hasInnerIndicator (c :: rest)
  | _ => false

/-- Whether a character that satisfies `p` is directly followed by one that satisfies `q`. -/
def hasPair (p q : Char → Bool) : List Char → Bool
  | a :: b :: rest => (p a && q b) || hasPair p q (b :: rest)
  | _ => false

/-- Whether the characters hold indicators that forbid to write them plain. -/
def hasIndicator (s : List Char) : Bool :=
  s.take 3 == ['-', '-', '-'] || s.take 3 == ['.', '.', '.'] ||
    (match s with
      | c :: rest => isInitialIndicator c rest.head?
      | [] => false) ||
    hasInnerIndicator s

def isMultiline (s : List Char) : Bool := s.any isBreak

/-- Whether a style keeps the text. -/
def allows (s : List Char) : Style → Bool
  | .plain =>
    let edges := s.head?.toList ++ s.getLast?.toList
    s.all isPrintable && !isMultiline s && !edges.any (· == ' ') && !hasIndicator s
  | .single =>
    s.all isPrintable && !hasPair isBreak (· == ' ') s && !hasPair (· == ' ') isBreak s
  | .literal =>
    s.all isPrintable && !hasPair (· == ' ') isBreak s && s.getLast? != some ' ' && !s.isEmpty
  | .double => true

def ofText (text : String) : Style :=
  let s := text.toList
  if s.contains '\n' then if allows s .literal then .literal else .double
  else if !Scalar.isAmbiguous text && allows s .plain then .plain
  else if allows s .single then .single
  else .double

/-! ## Escapes -/

/-- Hexadecimal digits in capitals, padded to `width`. -/
def hexPadded (width n : Nat) : List Char :=
  let digits := (Nat.toDigits 16 n).map Char.toUpper
  List.replicate (width - digits.length) '0' ++ digits

/-- A character as it is written between double quotes. -/
def doubleQuoted (c : Char) : List Char :=
  if isPrintable c && !isBreak c && c != '"' && c != '\\' then [c]
  else
    '\\' :: match c with
      | '\x00' => ['0']
      | '\x07' => ['a']
      | '\x08' => ['b']
      | '\t' => ['t']
      | '\n' => ['n']
      | '\x0b' => ['v']
      | '\x0c' => ['f']
      | '\r' => ['r']
      | '\x1b' => ['e']
      | '"' => ['"']
      | '\\' => ['\\']
      | '\u0085' => ['N']
      | '\u00a0' => ['_']
      | '\u2028' => ['L']
      | '\u2029' => ['P']
      | c =>
        if c.toNat ≤ 0xFF then 'x' :: hexPadded 2 c.toNat
        else if c.toNat ≤ 0xFFFF then 'u' :: hexPadded 4 c.toNat
        else 'U' :: hexPadded 8 c.toNat

/-- A character that is written as it is in a tag. -/
def isTagChar (c : Char) : Bool :=
  isNameChar c ||
    [';', '/', '?', ':', '@', '&', '=', '+', '$', ',', '.', '~', '*', '\'', '(', ')', '[', ']'].contains c

/-- The bytes of a tag, those that cannot stand there as they are behind percent signs. -/
def tagText (name : String) : List Char :=
  name.toList.flatMap fun c =>
    if isTagChar c then [c]
    else (Text.Utf8.encode (.singleton c)).flatMap fun b => '%' :: hexPadded 2 b.toNat

end Style

end ParamFile.Yaml
