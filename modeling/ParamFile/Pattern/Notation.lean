import ParamFile.Pattern.Expr
import ParamFile.Text.Blank
import ParamFile.Text.Case
import ParamFile.Text.Property
import ParamFile.Text.Script

/-!
# Notation of regular expressions: flags, escapes, character classes

The parts of the notation below the level of expressions. Every reader takes the text that is left
and answers what it read with the text behind it. Flags change what the notation means: letter case,
lines, line breaks, ASCII or Unicode classes, and whether white space and comments are skipped.
-/

namespace ParamFile.Pattern

open Text

/-! ## Faults -/

/-- Why a text is not a regular expression. -/
inductive Fault where
  | unclosedGroup
  | unopenedGroup
  | unclosedClass
  | missingOperand
  | unclosedCount
  | emptyCount
  | invalidCount
  | unsupportedLookAround
  | unsupportedBackreference
  | invalidGroupName
  | duplicateGroupName
  | invalidFlag
  | unexpectedEnd
  | invalidHexadecimal
  | unknownEscape
  | invalidClassEscape
  | invalidClassRange
  | invalidBoundary
  | unknownProperty
  | unicodeNotAllowed
  | invalidUtf8
  | tooDeep
  /-- Written out, the expression takes more room than allowed. -/
  | tooLarge
  deriving DecidableEq, Repr, Inhabited

def Fault.message : Fault → String
  | .unclosedGroup => "regex parse error: unclosed group"
  | .unopenedGroup => "regex parse error: unopened group"
  | .unclosedClass => "regex parse error: unclosed character class"
  | .missingOperand => "regex parse error: repetition operator missing expression"
  | .unclosedCount => "regex parse error: unclosed counted repetition"
  | .emptyCount => "regex parse error: repetition quantifier expects a valid decimal"
  | .invalidCount => "regex parse error: invalid repetition count range"
  | .unsupportedLookAround => "regex parse error: look-around is not supported"
  | .unsupportedBackreference => "regex parse error: backreferences are not supported"
  | .invalidGroupName => "regex parse error: invalid capture group name"
  | .duplicateGroupName => "regex parse error: duplicate capture group name"
  | .invalidFlag => "regex parse error: invalid flag"
  | .unexpectedEnd => "regex parse error: unexpected end of pattern"
  | .invalidHexadecimal => "regex parse error: invalid hexadecimal escape"
  | .unknownEscape => "regex parse error: unrecognized escape sequence"
  | .invalidClassEscape => "regex parse error: invalid escape sequence in character class"
  | .invalidClassRange => "regex parse error: invalid character class range"
  | .invalidBoundary => "regex parse error: unknown word boundary assertion"
  | .unknownProperty => "regex parse error: Unicode property not found"
  | .unicodeNotAllowed => "regex parse error: Unicode not allowed here"
  | .invalidUtf8 => "regex parse error: pattern can match invalid UTF-8"
  | .tooDeep => "regex parse error: exceeds the nesting limit"
  | .tooLarge => "Compiled regex exceeds size limit of 10485760 bytes."

/-! ## Flags and white space -/

/-- What the notation means at some place. -/
structure Flags where
  ignoreCase : Bool := false
  multiline : Bool := false
  dotAll : Bool := false
  /-- A carriage return counts as a line break too. -/
  anyBreak : Bool := false
  unicode : Bool := true
  /-- White space and comments are skipped. -/
  spaced : Bool := false
  deriving DecidableEq, Repr

/-- Skips white space and comments, `comment` telling whether the text begins inside one. -/
def skipComments : (comment : Bool) → List Char → List Char
  | _, [] => []
  | true, c :: rest => skipComments (c != '\n') rest
  | false, c :: rest =>
    if isBlank c then skipComments false rest
    else if c = '#' then skipComments true rest
    else c :: rest

/-- Skips white space and comments where the flags say so. -/
def Flags.skip (f : Flags) (s : List Char) : List Char :=
  if f.spaced then skipComments false s else s

/-- The flags after the letter `c` is switched on or off. -/
def Flags.switch (f : Flags) (c : Char) (on : Bool) : Option Flags :=
  match c with
  | 'i' => some { f with ignoreCase := on }
  | 'm' => some { f with multiline := on }
  | 's' => some { f with dotAll := on }
  | 'U' => some f
  | 'u' => some { f with unicode := on }
  | 'R' => some { f with anyBreak := on }
  | 'x' => some { f with spaced := on }
  | _ => none

/-! ## Sets of characters -/

namespace CharSet

def single (c : Char) : CharSet := (· == c)

def range (low high : Char) : CharSet := fun c => low ≤ c && c ≤ high

def union (sets : List CharSet) : CharSet := fun c => sets.any fun s => s c

/-- The characters outside a set, when `negated`. -/
def negateIf (negated : Bool) (s : CharSet) : CharSet := fun c => s c != negated

/-- The characters with a case variant in the set. -/
def variants (f : Flags) (s : CharSet) : CharSet :=
  if !f.ignoreCase then s
  else if f.unicode then fun c => (Case.variants c).any s
  else fun c => s c || s c.toLower || s c.toUpper

/-- The set holds ASCII characters only, as far as single bytes can tell. -/
def isAscii (s : CharSet) : Bool := (List.range 128).all fun i => !s (Char.ofNat (128 + i))

end CharSet

/-- Word characters as the flags understand them. -/
def Flags.word (f : Flags) : CharSet :=
  if f.unicode then isWord else fun c => c.isAlphanum || c == '_'

/-- The set of a class letter: decimal digits, white space, word characters. -/
def Flags.letterClass (f : Flags) (c : Char) : CharSet :=
  match c with
  | 'd' => if f.unicode then Category.isDecimal else Char.isDigit
  | 's' => if f.unicode then isBlank else fun c => c == ' ' || (9 ≤ c.toNat && c.toNat ≤ 13)
  | _ => f.word

/-- A class by name, as in `[:alpha:]`. -/
def namedClass? (name : String) : Option CharSet :=
  match name with
  | "alnum" => some Char.isAlphanum
  | "alpha" => some Char.isAlpha
  | "ascii" => some fun c => c.toNat < 128
  | "blank" => some fun c => c == ' ' || c == '\t'
  | "cntrl" => some fun c => c.toNat < 32 || c.toNat == 127
  | "digit" => some Char.isDigit
  | "graph" => some (.range '!' '~')
  | "lower" => some (.range 'a' 'z')
  | "print" => some (.range ' ' '~')
  | "punct" =>
    some (.union [.range '!' '/', .range ':' '@', .range '[' '\x60', .range '\x7b' '~'])
  | "space" => some fun c => c == ' ' || (9 ≤ c.toNat && c.toNat ≤ 13)
  | "upper" => some (.range 'A' 'Z')
  | "word" => some fun c => c.isAlphanum || c == '_'
  | "xdigit" => some (.union [.range '0' '9', .range 'A' 'F', .range 'a' 'f'])
  | _ => none

/-- The name of a property in lower case without separators and without a leading `is`. -/
def propertyName (name : List Char) : String :=
  let isLed := (name.take 2).map Char.toLower = ['i', 's']
  let body := if isLed then name.drop 2 else name
  let norm := (body.filter fun c => c.toNat < 128 && c ≠ ' ' && c ≠ '_' && c ≠ '-').map Char.toLower
  if isLed && norm == ['c'] then "isc" else .ofList norm

/-- A property given by its name alone: a property proper, a general category or a script. -/
def property? (name : List Char) : Option CharSet :=
  let n := propertyName name
  (Property.ofName? n).orElse fun _ => (Category.ofName? n).orElse fun _ => Script.ofName? n

/-- A property given as a name and a value. -/
def propertyValue? (name value : List Char) : Option CharSet :=
  let v := propertyName value
  match propertyName name with
  | "gc" | "generalcategory" =>
    if v = "any" ∨ v = "ascii" ∨ v = "assigned" then Property.ofName? v else Category.ofName? v
  | "sc" | "script" | "scx" | "scriptextensions" => Script.ofName? v
  | _ => none

/-- The set a property query asks for: `name`, `name=value`, `name:value` or `name!=value`. -/
def query? (q : List Char) : Option CharSet :=
  let (before, behind) := (q.takeWhile fun c => c ≠ ':' && c ≠ '=', q.dropWhile fun c => c ≠ ':' && c ≠ '=')
  match behind with
  | [] => property? q
  | '=' :: value =>
    match before.getLast? with
    | some '!' => (propertyValue? before.dropLast value).map (CharSet.negateIf true)
    | _ => propertyValue? before value
  | _ :: value => propertyValue? before value

/-! ## Escapes -/

/-- What an escape stands for. -/
inductive Escape where
  /-- A character; `byte` when it was written as two hexadecimal digits. -/
  | char (c : Char) (byte : Bool)
  | set (s : CharSet)
  | look (l : Look)

def isHexDigit (c : Char) : Bool :=
  c.isDigit || ('a' ≤ c && c ≤ 'f') || ('A' ≤ c && c ≤ 'F')

def charOfHex (digits : List Char) : Except Fault Char :=
  let n := digits.foldl (fun n c => 16 * n + Ranges.hexDigit c.toUpper) 0
  if n < 0xD800 ∨ (0xDFFF < n ∧ n < 0x110000) then .ok (Char.ofNat n) else .error .invalidHexadecimal

def hexFixed (f : Flags) : (n : Nat) → (digits : List Char) → List Char → Except Fault (List Char × List Char)
  | 0, digits, s => .ok (digits.reverse, s)
  | _ + 1, _, [] => .error .unexpectedEnd
  | n + 1, digits, c :: rest =>
    if isHexDigit c then hexFixed f n (c :: digits) (f.skip rest) else .error .invalidHexadecimal

/-- Hexadecimal digits up to a closing brace. -/
def hexBraced (f : Flags) : (fuel : Nat) → (digits : List Char) → List Char →
    Except Fault (List Char × List Char)
  | 0, _, _ | _, _, [] => .error .unexpectedEnd
  | _ + 1, digits, '}' :: rest =>
    if digits.isEmpty then .error .invalidHexadecimal else .ok (digits.reverse, f.skip rest)
  | fuel + 1, digits, c :: rest =>
    if isHexDigit c then hexBraced f fuel (c :: digits) (f.skip rest) else .error .invalidHexadecimal

/-- A code point behind `\x`, `\u` or `\U`, which take `n` digits or digits in braces. -/
def hexEscape (f : Flags) (n : Nat) (s : List Char) : Except Fault (Escape × List Char) := do
  match f.skip s with
  | [] => .error .unexpectedEnd
  | '{' :: rest =>
    let (digits, rest) ← hexBraced f (rest.length + 1) [] (f.skip rest)
    return (.char (← charOfHex digits) false, rest)
  | s =>
    let (digits, rest) ← hexFixed f n [] s
    return (.char (← charOfHex digits) (n = 2), rest)

def propertyEscape (f : Flags) (negated : Bool) (s : List Char) : Except Fault (Escape × List Char) := do
  let (query, rest) ← match f.skip s with
    | [] => .error .unexpectedEnd
    | '{' :: rest =>
      let name := rest.takeWhile (· ≠ '}')
      match rest.dropWhile (· ≠ '}') with
      | [] => .error .unexpectedEnd
      | _ :: rest => .ok (if f.spaced then name.filter (!isBlank ·) else name, rest)
    | '\\' :: _ => .error .unknownProperty
    | c :: rest => .ok ([c], f.skip rest)
  if !f.unicode then .error .unicodeNotAllowed
  else
    match query? query with
    | some set => return (.set (.negateIf negated (set.variants f)), rest)
    | none => .error .unknownProperty

/-- The name in braces behind `\b`, if there is one: `none` leaves the brace to a repetition count. -/
def boundaryName? (f : Flags) (s : List Char) : Except Fault (Option (String × List Char)) :=
  let isName (c : Char) : Bool := c.isAlpha || c == '-'
  match f.skip s with
  | [] => .error .unexpectedEnd
  | c :: rest =>
    if !isName c then .ok none
    else
      let body := if f.spaced then (c :: rest).filter (!isBlank ·) else c :: rest
      match body.dropWhile isName with
      | '}' :: _ => .ok (some (.ofList (body.takeWhile isName), ((c :: rest).dropWhile (· ≠ '}')).drop 1))
      | _ => .error .invalidBoundary

def boundaryEscape (f : Flags) (s : List Char) : Except Fault (Escape × List Char) := do
  let plain : Escape := .look (.boundary f.word)
  match s with
  | '{' :: rest =>
    match ← boundaryName? f rest with
    | none => return (plain, s)
    | some ("start", rest) => return (.look (.wordStart f.word), rest)
    | some ("end", rest) => return (.look (.wordEnd f.word), rest)
    | some ("start-half", rest) => return (.look (.wordStartHalf f.word), rest)
    | some ("end-half", rest) => return (.look (.wordEndHalf f.word), rest)
    | some _ => .error .invalidBoundary
  | _ => return (plain, s)

/-- Reads an escape, the text beginning behind the backslash. -/
def escape (f : Flags) : List Char → Except Fault (Escape × List Char)
  | [] => .error .unexpectedEnd
  | c :: rest =>
    match c with
    | 'x' => hexEscape f 2 rest
    | 'u' => hexEscape f 4 rest
    | 'U' => hexEscape f 8 rest
    | 'p' => propertyEscape f false rest
    | 'P' => propertyEscape f true rest
    | 'd' | 's' | 'w' => .ok (.set (f.letterClass c), rest)
    | 'D' | 'S' | 'W' =>
      if f.unicode then .ok (.set (.negateIf true (f.letterClass c.toLower)), rest)
      else .error .invalidUtf8
    | 'a' => .ok (.char '\x07' false, rest)
    | 'f' => .ok (.char '\x0c' false, rest)
    | 't' => .ok (.char '\t' false, rest)
    | 'n' => .ok (.char '\n' false, rest)
    | 'r' => .ok (.char '\r' false, rest)
    | 'v' => .ok (.char '\x0b' false, rest)
    | 'A' => .ok (.look .textStart, rest)
    | 'z' => .ok (.look .textEnd, rest)
    | 'b' => boundaryEscape f rest
    | 'B' => .ok (.look (.notBoundary f.word), rest)
    | '<' => .ok (.look (.wordStart f.word), rest)
    | '>' => .ok (.look (.wordEnd f.word), rest)
    | c =>
      if c.isDigit then .error .unsupportedBackreference
      else if c.isAlpha ∨ 128 ≤ c.toNat then .error .unknownEscape
      else .ok (.char c false, rest)

/-! ## Bracketed classes -/

/-- Operations between sets in a class. -/
inductive SetOp where
  | intersection
  | difference
  | symmetricDifference
  deriving DecidableEq, Repr

def SetOp.apply (op : SetOp) (a b : CharSet) : CharSet := fun c =>
  match op with
  | .intersection => a c && b c
  | .difference => a c && !b c
  | .symmetricDifference => a c != b c

/-- One member of a class: a character or a set. -/
def classMember (f : Flags) : List Char → Except Fault (Escape × List Char)
  | '\\' :: rest => do
    match ← escape f rest with
    | (.look _, _) => .error .invalidClassEscape
    | (.char c byte, rest) =>
      if !f.unicode && byte && 128 ≤ c.toNat then .error .invalidUtf8 else return (.char c byte, rest)
    | member => return member
  | c :: rest =>
    if !f.unicode && 128 ≤ c.toNat then .error .unicodeNotAllowed else .ok (.char c false, rest)
  | [] => .error .unclosedClass

/-- A member of a class, or a range between two characters. -/
def classRange (f : Flags) (s : List Char) : Except Fault (CharSet × List Char) := do
  let (low, rest) ← classMember f s
  let alone (rest : List Char) : Except Fault (CharSet × List Char) :=
    match low with
    | .char c _ => .ok (.single c, rest)
    | .set s => .ok (s, rest)
    | .look _ => .error .invalidClassEscape
  match f.skip rest with
  | [] => .error .unclosedClass
  | '-' :: rest =>
    match f.skip rest with
    | [] => .error .unclosedClass
    | ']' :: _ | '-' :: _ => alone ('-' :: rest)
    | next =>
      let (high, rest) ← classMember f next
      match low, high with
      | .char a _, .char b _ => if a ≤ b then return (.range a b, rest) else .error .invalidClassRange
      | _, _ => .error .invalidClassRange
  | rest => alone rest

/-- A class by name, the text beginning behind its first bracket; `none` if there is none here. -/
def namedClass (s : List Char) : Option (CharSet × List Char) :=
  match s with
  | ':' :: rest =>
    let (negated, rest) := match rest with
      | '^' :: r => (true, r)
      | r => (false, r)
    match rest.dropWhile (· ≠ ':') with
    | ':' :: ']' :: behind =>
      (namedClass? (.ofList (rest.takeWhile (· ≠ ':')))).map fun s => (.negateIf negated s, behind)
    | _ => none
  | _ => none

/-- How a class begins: whether it is negated, and brackets or dashes that stand for themselves. -/
def classOpening (f : Flags) (s : List Char) : Except Fault (Bool × List CharSet × List Char) :=
  let (negated, s) := match f.skip s with
    | '^' :: rest => (true, f.skip rest)
    | s => (false, s)
  let dashes (s : List Char) : List Char := s.dropWhile fun c => c == '-' || (f.spaced && isBlank c)
  match s with
  | [] => .error .unclosedClass
  | ']' :: rest => if (f.skip rest).isEmpty then .error .unclosedClass else .ok (negated, [.single ']'], rest)
  | '-' :: rest =>
    let behind := f.skip (dashes rest)
    if behind.isEmpty then .error .unclosedClass else .ok (negated, [.single '-'], behind)
  | s => .ok (negated, [], s)

/-- A class that is read so far: an operation waiting for its right side, and that side's members. -/
structure OpenClass where
  negated : Bool
  waiting : Option (SetOp × CharSet)
  members : List CharSet
  /-- How deeply classes are nested in it. -/
  height : Nat

/-- The set of what has been read, the waiting operation applied. -/
def OpenClass.operand (f : Flags) (k : OpenClass) : CharSet :=
  let right := CharSet.union k.members
  match k.waiting with
  | none => right
  | some (op, left) => op.apply (left.variants f) (right.variants f)

/-- Reads the rest of a class up to its closing bracket; answers its set and its height. -/
def classBody (f : Flags) : (fuel : Nat) → OpenClass → List Char →
    Except Fault (CharSet × Nat × List Char)
  | 0, _, _ => .error .unclosedClass
  | fuel + 1, k, s =>
    let operator (op : SetOp) (rest : List Char) : Except Fault (CharSet × Nat × List Char) :=
      classBody f fuel
        { k with waiting := some (op, k.operand f), members := [], height := k.height + 1 } rest
    match f.skip s with
    | [] => .error .unclosedClass
    | '[' :: rest =>
      match namedClass rest with
      | some (set, behind) =>
        if !f.unicode && !set.isAscii then .error .invalidUtf8
        else classBody f fuel { k with members := set :: k.members } behind
      | none => do
        let (negated, members, rest) ← classOpening f rest
        let (set, height, behind) ← classBody f fuel ⟨negated, none, members, 0⟩ rest
        classBody f fuel
          { k with members := set :: k.members, height := max k.height (height + 1) } behind
    | ']' :: rest =>
      let set := CharSet.negateIf k.negated ((k.operand f).variants f)
      if !f.unicode && !set.isAscii then .error .invalidUtf8
      else .ok (set, k.height + 1, rest)
    | '&' :: '&' :: rest => operator .intersection rest
    | '-' :: '-' :: rest => operator .difference rest
    | '~' :: '~' :: rest => operator .symmetricDifference rest
    | s => do
      let (set, behind) ← classRange f s
      classBody f fuel { k with members := set :: k.members } behind

/-- Reads a class, the text beginning behind its opening bracket. -/
def bracketed (f : Flags) (s : List Char) : Except Fault (CharSet × Nat × List Char) := do
  let (negated, members, rest) ← classOpening f s
  classBody f (s.length + 1) ⟨negated, none, members, 0⟩ rest

end ParamFile.Pattern
