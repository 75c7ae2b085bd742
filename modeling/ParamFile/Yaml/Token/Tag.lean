import ParamFile.Text.Ranges
import ParamFile.Text.Utf8
import ParamFile.Yaml.Cursor
import ParamFile.Yaml.Fault
import ParamFile.Yaml.Token

/-!
# Tags, anchors and directives

What stands behind an exclamation mark, an ampersand, an asterisk or, at the start of a line, a
percent sign. A tag is a handle, which a directive may define, and a suffix in which any byte can be
written as two hexadecimal digits behind a percent sign.
-/

namespace ParamFile.Yaml.Token

open Text

/-! ## Names behind a mark -/

/-- Whether a character may follow a name directly. -/
def endsName (c : Option Char) : Bool :=
  endsWord c || c.any fun x =>
    x == '?' || x == ':' || x == ',' || x == ']' || x == '}' || x == '%' || x == '@' || x == '\x60'

def takeName (c : Cursor) : Except Fault (String × Cursor) :=
  let (name, next) := c.advance.takeWhile isNameChar
  if name.isEmpty || !endsName next.peek then .error .malformedAnchor
  else .ok (.ofList name, next)

/-! ## Tags -/

/-- The handle of a tag: an exclamation mark alone, or a name between two. -/
def takeHandle (inDirective : Bool) (c : Cursor) : Except Fault (String × Cursor) :=
  if !c.isAt '!' then .error .malformedTag
  else
    let (name, next) := c.advance.takeWhile isNameChar
    if next.isAt '!' then .ok (.ofList ('!' :: name ++ ['!']), next.advance)
    else if inDirective && !name.isEmpty then .error .malformedTag
    else .ok (.ofList ('!' :: name), next)

/-- A character that stands for itself in a tag. Commas and brackets do so only where the tag has a
delimiter of its own. -/
def isTagChar (delimited : Bool) (c : Char) : Bool :=
  isNameChar c ||
    [';', '/', '?', ':', '@', '&', '=', '+', '$', '.', '!', '~', '*', '\'', '(', ')'].contains c ||
    (delimited && (c == ',' || c == '[' || c == ']'))

/-- A byte written as two hexadecimal digits behind a percent sign. -/
def percentByte? : List Char → Option UInt8
  | '%' :: a :: b :: _ =>
    let isHex (c : Char) : Bool := c.isDigit || ('a' ≤ c && c ≤ 'f') || ('A' ≤ c && c ≤ 'F')
    if isHex a && isHex b then
      some (UInt8.ofNat (16 * Ranges.hexDigit a.toUpper + Ranges.hexDigit b.toUpper))
    else none
  | _ => none

/-- How many bytes a character takes that begins with this byte; `none` if none does. -/
def width? (b : UInt8) : Option Nat :=
  if b < 0x80 then some 1
  else if b &&& 0xE0 == 0xC0 then some 2
  else if b &&& 0xF0 == 0xE0 then some 3
  else if b &&& 0xF8 == 0xF0 then some 4
  else none

/-- The bytes that follow the first of a character, `n` of them. -/
def takeContinuation : (n : Nat) → Cursor → Except Fault (List UInt8 × Cursor)
  | 0, c => .ok ([], c)
  | n + 1, c =>
    match percentByte? c.rest with
    | some b =>
      if b &&& 0xC0 == 0x80 then (takeContinuation n (c.advance 3)).map fun (r, next) => (b :: r, next)
      else .error .malformedTag
    | none => .error .malformedTag

/-- The bytes of a character written with percent signs. -/
def takeEscaped (c : Cursor) : Except Fault (List UInt8 × Cursor) :=
  match percentByte? c.rest with
  | none => .error .malformedTag
  | some b =>
    match width? b with
    | none => .error .malformedTag
    | some n => (takeContinuation (n - 1) (c.advance 3)).map fun (r, next) => (b :: r, next)

/-- The bytes of a tag up to the first character that does not belong to it. -/
def takeTagBytes (delimited : Bool) : (fuel : Nat) → (out : List UInt8) → Cursor →
    Except Fault (List UInt8 × Cursor)
  | 0, out, c => .ok (out, c)
  | fuel + 1, out, c =>
    match c.peek with
    | some '%' =>
      match takeEscaped c with
      | .error e => .error e
      | .ok (bytes, next) => takeTagBytes delimited fuel (out ++ bytes) next
    | some x =>
      if isTagChar delimited x then
        takeTagBytes delimited fuel (out ++ Utf8.encode (.singleton x)) c.advance
      else .ok (out, c)
    | none => .ok (out, c)

/-- Reads a tag: verbatim between angle brackets, or a handle with a suffix. -/
def takeTag (inFlow : Bool) (c : Cursor) : Except Fault (Token × Cursor) := do
  let bytes (delimited : Bool) (c : Cursor) : Except Fault (List UInt8 × Cursor) :=
    takeTagBytes delimited (c.rest.length + 1) [] c
  let (token, next) ← if c.peek 1 = some '<' then do
      let (suffix, next) ← bytes true (c.advance 2)
      if suffix.isEmpty || !next.isAt '>' then .error .malformedTag
      else pure (Token.tag "" suffix, next.advance)
    else do
      let (owner, next) ← takeHandle false c
      let (suffix, next) ← bytes false next
      let name := owner.toList.drop 1
      if name.getLast? = some '!' then
        if suffix.isEmpty then .error .malformedTag else pure (Token.tag owner suffix, next)
      else
        let suffix := Utf8.encode (.ofList name) ++ suffix
        pure (if suffix.isEmpty then Token.tag "" (Utf8.encode "!") else Token.tag "!" suffix, next)
  if next.endsWordAt 0 || (inFlow && next.isAt ',') then return (token, next)
  else .error .malformedTag

/-! ## Directives -/

def takeVersionNumber (c : Cursor) : Except Fault (Nat × Cursor) :=
  let (digits, next) := c.takeWhile Char.isDigit
  if digits.isEmpty || 9 < digits.length then .error .malformedDirective
  else .ok (digits.foldl (fun n d => 10 * n + (d.toNat - 48)) 0, next)

/-- Reads a directive, whose percent sign stands here. -/
def takeDirective (c : Cursor) : Except Fault (Token × Cursor) := do
  let (name, next) := c.advance.takeWhile isNameChar
  if name.isEmpty || !next.endsWordAt 0 then .error .malformedDirective
  let value := next.skipWhile isSpacing
  let (token, next) ← match String.ofList name with
    | "YAML" => do
      let (major, next) ← takeVersionNumber value
      if !next.isAt '.' then .error .malformedDirective
      let (minor, next) ← takeVersionNumber next.advance
      pure (Token.version major minor, next)
    | "TAG" => do
      let (owner, next) ← takeHandle true value
      if !next.peek.any isSpacing then .error .malformedDirective
      let next := next.skipWhile isSpacing
      let (expansion, next) ← takeTagBytes true (next.rest.length + 1) [] next
      if expansion.isEmpty || !next.endsWordAt 0 then .error .malformedDirective
      pure (Token.handle owner expansion, next)
    | _ => .error .unknownDirective
  let next := next.skipWhile isSpacing
  let next := if next.isAt '#' then next.skipWhile (!isBreak ·) else next
  if next.endsWordAt 0 then return (token, next.takeBreak.2) else .error .malformedDirective

end ParamFile.Yaml.Token
