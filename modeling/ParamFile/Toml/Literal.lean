import ParamFile.Toml.Table

/-!
# Numbers, dates and strings of settings

What a word without quotes denotes (a truth value, a whole number in one of four notations, a number of
binary floating point, a date or a time) and how the four kinds of strings are read. Digits can be
grouped by low lines, each of which stands between two digits.
-/

namespace ParamFile.Toml

open Number

/-! ## Numbers -/

/-- The digits without the low lines between them; `none` if one stands elsewhere, if there is no
digit, or if a character is no digit. -/
def ungroup? (isDigit : Char → Bool) : List Char → Option (List Char)
  | [] => none
  | [c] => if isDigit c then some [c] else none
  | c :: '_' :: rest => if isDigit c then (ungroup? isDigit rest).map (c :: ·) else none
  | c :: rest => if isDigit c then (ungroup? isDigit rest).map (c :: ·) else none

/-- A sign, if there is one, and what stands behind it. -/
def splitSign : List Char → Bool × List Char
  | '-' :: rest => (true, rest)
  | '+' :: rest => (false, rest)
  | rest => (false, rest)

/-- The digits of a whole decimal number, which has no superfluous zero in front. -/
def decimalDigits? (s : List Char) : Option (List Char) :=
  match s with
  | ['0'] => some ['0']
  | '0' :: _ => none
  | s => ungroup? Char.isDigit s

/-- The number that some digits write to a base. -/
def ofDigits (base : Nat) (digits : List Char) : Nat :=
  digits.foldl
    (fun n c => base * n + (if c.isDigit then c.toNat - 48 else c.toLower.toNat - 87)) 0

def leastInteger : Int := -0x8000000000000000

def greatestInteger : Int := 0x7fffffffffffffff

/-- A whole number of 64 bits. -/
def ranged (n : Int) : Except Fault Value :=
  if leastInteger ≤ n ∧ n ≤ greatestInteger then .ok (.integer n) else .error .numberTooLarge

/-- A number behind the mark of its base. -/
def baseNumber (base : Nat) (isDigit : Char → Bool) (s : List Char) : Except Fault Value :=
  match ungroup? isDigit s with
  | some digits => ranged (ofDigits base digits)
  | none => .error .malformedNumber

def isHexDigit (c : Char) : Bool :=
  c.isDigit || ('a' ≤ c && c ≤ 'f') || ('A' ≤ c && c ≤ 'F')

/-- A number with a fraction or an exponent. -/
def real? (s : List Char) : Option Binary64 := do
  let (negative, body) := splitSign s
  let isMark (c : Char) : Bool := c == 'e' || c == 'E'
  let mantissa := body.takeWhile (!isMark ·)
  let whole ← decimalDigits? (mantissa.takeWhile (· ≠ '.'))
  let fraction ← match mantissa.dropWhile (· ≠ '.') with
    | [] => some []
    | _ :: digits => ungroup? Char.isDigit digits
  let exponent ← match body.dropWhile (!isMark ·) with
    | [] => if fraction.isEmpty then none else some 0
    | _ :: rest =>
      let (down, rest) := splitSign rest
      (ungroup? Char.isDigit rest).map fun ds =>
        if down then -(natOfDigits ds : Int) else (natOfDigits ds : Int)
  return (Literal.mk negative (natOfDigits (whole ++ fraction)) (exponent - fraction.length)).toBinary

def number (s : List Char) : Except Fault Value :=
  let (negative, body) := splitSign s
  match s, body with
  | '0' :: 'x' :: digits, _ => baseNumber 16 isHexDigit digits
  | '0' :: 'o' :: digits, _ => baseNumber 8 (fun c => '0' ≤ c && c ≤ '7') digits
  | '0' :: 'b' :: digits, _ => baseNumber 2 (fun c => c == '0' || c == '1') digits
  | _, ['i', 'n', 'f'] => .ok (.real (.infinite negative))
  | _, ['n', 'a', 'n'] => .ok (.real .nan)
  | _, _ =>
    match decimalDigits? body with
    | some digits =>
      let n : Int := natOfDigits digits
      ranged (if negative then -n else n)
    | none =>
      match real? s with
      | some (.infinite _) => .error .numberTooLarge
      | some x => .ok (.real x)
      | none => .error .malformedNumber

/-! ## Dates and times -/

/-- A number of exactly `width` digits between two bounds, and what stands behind it. -/
def bounded? (width low high : Nat) (s : List Char) : Option (Nat × List Char) :=
  let digits := s.take width
  let n := natOfDigits digits
  if digits.length = width ∧ digits.all Char.isDigit ∧ low ≤ n ∧ n ≤ high then
    some (n, s.drop width)
  else none

/-- What stands behind the given character. -/
def behind? (c : Char) : List Char → Option (List Char)
  | x :: rest => if x = c then some rest else none
  | [] => none

def daysIn (year month : Nat) : Nat :=
  let isLeap := year % 4 = 0 ∧ (year % 100 ≠ 0 ∨ year % 400 = 0)
  if month = 2 then if isLeap then 29 else 28
  else if month = 4 ∨ month = 6 ∨ month = 9 ∨ month = 11 then 30
  else 31

/-- What stands behind a date. -/
def date? (s : List Char) : Option (List Char) := do
  let (year, s) ← bounded? 4 0 9999 s
  let (month, s) ← bounded? 2 1 12 (← behind? '-' s)
  let (_, s) ← bounded? 2 1 (daysIn year month) (← behind? '-' s)
  return s

/-- What stands behind a time. -/
def time? (s : List Char) : Option (List Char) := do
  let (_, s) ← bounded? 2 0 23 s
  let (_, s) ← bounded? 2 0 59 (← behind? ':' s)
  let (_, s) ← bounded? 2 0 60 (← behind? ':' s)
  match s with
  | '.' :: rest => if (rest.takeWhile Char.isDigit).isEmpty then none else some (rest.dropWhile Char.isDigit)
  | s => some s

/-- Whether a text is a distance from universal time, or empty. -/
def isOffset : List Char → Bool
  | [] | ['Z'] | ['z'] => true
  | sign :: rest =>
    (sign == '+' || sign == '-') &&
      ((bounded? 2 0 23 rest).bind fun (_, s) =>
        (behind? ':' s).bind fun s => (bounded? 2 0 59 s).map fun (_, s) => s.isEmpty).getD false

/-- Whether a word is a date, a time, or a date and a time. -/
def isMoment (s : List Char) : Bool :=
  match date? s with
  | some [] => true
  | some (c :: rest) => (c == 'T' || c == 't' || c == ' ') && (time? rest).any isOffset
  | none => (time? s).any (·.isEmpty)

/-! ## Words -/

def isWordChar (c : Char) : Bool :=
  c.isAlphanum || c == '_' || c == '-' || c == '+' || c == '.' || c == ':'

/-- The word at the head of a text; a space belongs to it between a date and a time. -/
def takeWord (s : List Char) : List Char × List Char :=
  let word := s.takeWhile isWordChar
  let rest := s.dropWhile isWordChar
  match date? word, rest with
  | some [], ' ' :: d :: more =>
    if d.isDigit then
      (word ++ ' ' :: (d :: more).takeWhile isWordChar, (d :: more).dropWhile isWordChar)
    else (word, rest)
  | _, _ => (word, rest)

def wordValue (word : List Char) : Except Fault Value :=
  if word = ['t', 'r', 'u', 'e'] then .ok (.bool true)
  else if word = ['f', 'a', 'l', 's', 'e'] then .ok (.bool false)
  else if isMoment word then .ok (.moment (.ofList word))
  else if word.isEmpty then .error .unexpectedCharacter
  else number word

/-! ## Strings -/

/-- A character that a string may hold as it is, line ends apart. -/
def isStringChar (c : Char) : Bool := c == '\t' || (0x20 ≤ c.toNat && c.toNat ≠ 0x7F)

def charOfHex? (digits : List Char) : Option Char :=
  let n := ofDigits 16 digits
  if !digits.all isHexDigit || (0xD800 ≤ n && n ≤ 0xDFFF) || 0x10FFFF < n then none
  else some (Char.ofNat n)

/-- The character that an escape stands for; the text begins behind the backslash. -/
def escape (s : List Char) : Except Fault (Char × List Char) :=
  let hex (n : Nat) (rest : List Char) : Except Fault (Char × List Char) :=
    if (rest.take n).length < n then .error .malformedEscape
    else
      match charOfHex? (rest.take n) with
      | some c => .ok (c, rest.drop n)
      | none => .error .malformedEscape
  match s with
  | 'b' :: rest => .ok ('\x08', rest)
  | 't' :: rest => .ok ('\t', rest)
  | 'n' :: rest => .ok ('\n', rest)
  | 'f' :: rest => .ok ('\x0c', rest)
  | 'r' :: rest => .ok ('\r', rest)
  | '"' :: rest => .ok ('"', rest)
  | '\\' :: rest => .ok ('\\', rest)
  | 'u' :: rest => hex 4 rest
  | 'U' :: rest => hex 8 rest
  | _ => .error .malformedEscape

/-- Reads a string of one line up to its closing quote; `out` is reversed. -/
def shortString (quote : Char) : (fuel : Nat) → (out : List Char) → List Char →
    Except Fault (String × List Char)
  | 0, _, _ | _, _, [] => .error .unexpectedEnd
  | fuel + 1, out, c :: rest =>
    if c = quote then .ok (.ofList out.reverse, rest)
    else if c = '\\' ∧ quote = '"' then
      match escape rest with
      | .error e => .error e
      | .ok (x, rest) => shortString quote fuel (x :: out) rest
    else if isStringChar c then shortString quote fuel (c :: out) rest
    else .error .forbiddenCharacter

/-- The text behind a line end, if one stands here. -/
def behindBreak? : List Char → Option (List Char)
  | '\n' :: rest => some rest
  | '\r' :: '\n' :: rest => some rest
  | _ => none

/-- The text behind a backslash that ends its line: all white space and line ends there are dropped. -/
def behindContinuation? (s : List Char) : Option (List Char) :=
  let isSpacing (c : Char) : Bool := c == ' ' || c == '\t'
  (behindBreak? (s.dropWhile isSpacing)).map fun rest =>
    rest.dropWhile fun c => isSpacing c || c == '\n' || c == '\r'

/-- Reads a string of several lines up to its closing quotes, before which one or two quotes may stand;
`out` is reversed. -/
def longString (quote : Char) : (fuel : Nat) → (out : List Char) → List Char →
    Except Fault (String × List Char)
  | 0, _, _ | _, _, [] => .error .unexpectedEnd
  | fuel + 1, out, c :: rest =>
    if c = quote then
      let quotes := (c :: rest).takeWhile (· == quote)
      let behind := (c :: rest).dropWhile (· == quote)
      if quotes.length < 3 then longString quote fuel (quotes ++ out) behind
      else
        let extra := min (quotes.length - 3) 2
        .ok (.ofList (quotes.take extra ++ out).reverse, (c :: rest).drop (3 + extra))
    else if c = '\\' ∧ quote = '"' then
      match behindContinuation? rest with
      | some rest => longString quote fuel out rest
      | none =>
        match escape rest with
        | .error e => .error e
        | .ok (x, rest) => longString quote fuel (x :: out) rest
    else
      match behindBreak? (c :: rest) with
      | some rest => longString quote fuel ('\n' :: out) rest
      | none =>
        if isStringChar c then longString quote fuel (c :: out) rest else .error .forbiddenCharacter

/-- Reads a string of one line or several; the text begins with its quote. -/
def takeString (s : List Char) : Except Fault (String × List Char) :=
  match s with
  | '"' :: '"' :: '"' :: rest =>
    longString '"' (rest.length + 1) [] ((behindBreak? rest).getD rest)
  | '\'' :: '\'' :: '\'' :: rest =>
    longString '\'' (rest.length + 1) [] ((behindBreak? rest).getD rest)
  | c :: rest => shortString c (rest.length + 1) [] rest
  | [] => .error .unexpectedEnd

end ParamFile.Toml
