import ParamFile.Yaml.Fault
import ParamFile.Yaml.Value

/-!
# What a plain scalar denotes

A scalar that is written without quotes is null, a truth value, a number or a text, whichever its
spelling says. Whole numbers are decimal, or hexadecimal, octal or binary behind their mark; they
must fit in 64 bits, and those that only fit in 128 bits are refused. Digits behind a leading zero
are no number but a text.

A tag can demand one of the four kinds; then a scalar of another spelling is refused.
-/

namespace ParamFile.Yaml.Scalar

open Number

/-! ## Spellings -/

def isNull (s : List Char) : Bool :=
  ["null", "Null", "NULL", "~"].contains (String.ofList s)

/-- A truth value is spelled out, in one of three ways to use capitals. -/
def bool? (s : List Char) : Option Bool :=
  if ["true", "True", "TRUE"].contains (String.ofList s) then some true
  else if ["false", "False", "FALSE"].contains (String.ofList s) then some false
  else none

/-- Digits behind a zero, with a sign or none: a text, although it looks like a number. -/
def isPaddedNumber (s : List Char) : Bool :=
  let digits := match s with
    | '-' :: r | '+' :: r => r
    | r => r
  match digits with
  | '0' :: d :: rest => (d :: rest).all Char.isDigit
  | _ => false

/-- The number that some digits write to a base. -/
def digitsToBase? (base : Nat) (s : List Char) : Option Nat :=
  let digit? (c : Char) : Option Nat :=
    let v := if c.isDigit then c.toNat - 48 else c.toLower.toNat - 87
    if (c.isDigit || ('a' ≤ c.toLower && c.toLower ≤ 'f')) && v < base then some v else none
  if s.isEmpty then none
  else s.foldl (fun n c => do return base * (← n) + (← digit? c)) (some 0)

/-- A natural number in one of the four notations. -/
def natural? (s : List Char) : Option Nat :=
  let marked := match s with
    | '0' :: 'x' :: r => digitsToBase? 16 r
    | '0' :: 'o' :: r => digitsToBase? 8 r
    | '0' :: 'b' :: r => digitsToBase? 2 r
    | _ => none
  marked.orElse fun _ => if isPaddedNumber s then none else digitsToBase? 10 s

/-- A whole number in one of the four notations. -/
def integer? : List Char → Option Int
  | '+' :: r => (natural? r).map Int.ofNat
  | '-' :: r => (natural? r).map fun n => -(n : Int)
  | s => (natural? s).map Int.ofNat

def infinities : List String := [".inf", ".Inf", ".INF"]

/-- A number of binary floating point that is finite, or the name of one that is not. -/
def real? (s : List Char) : Option Binary64 :=
  let finite? (t : List Char) : Option Binary64 :=
    (Literal.ofText? t).bind fun l => if l.toBinary.isFinite then some l.toBinary else none
  match s with
  | '+' :: '+' :: _ | '+' :: '-' :: _ => none
  | '+' :: r => if infinities.contains (String.ofList r) then some (.infinite false) else finite? r
  | s =>
    if infinities.contains (String.ofList s) then some (.infinite false)
    else if ["-.inf", "-.Inf", "-.INF"].contains (String.ofList s) then some (.infinite true)
    else if [".nan", ".NaN", ".NAN"].contains (String.ofList s) then some .nan
    else finite? s

/-! ## Kinds -/

/-- What the spelling of a scalar says. -/
inductive Kind where
  | null
  | bool (b : Bool)
  | number (n : Numeral)
  /-- A whole number that is refused for its size. -/
  | tooLarge
  | text
  deriving DecidableEq, Repr

/-- The least whole number, of 64 bits with a sign. -/
def leastInteger : Int := -0x8000000000000000

/-- The greatest whole number, of 64 bits without a sign. -/
def greatestInteger : Int := 0xffffffffffffffff

/-- The least number of 128 bits with a sign. -/
def leastWide : Int := -0x80000000000000000000000000000000

/-- The greatest number of 128 bits without a sign. -/
def greatestWide : Int := 0xffffffffffffffffffffffffffffffff

/-- The kind of a whole number. Numbers that 64 bits do not hold are refused if 128 bits hold them. -/
def Kind.ofInteger? (s : List Char) : Option Kind :=
  (integer? s).bind fun n =>
    if leastInteger ≤ n ∧ n ≤ greatestInteger then some (.number (.integer n))
    else if leastWide ≤ n ∧ n ≤ greatestWide then some .tooLarge
    else none

def Kind.ofText (s : List Char) : Kind :=
  if s.isEmpty || isNull s then .null
  else
    match bool? s with
    | some b => .bool b
    | none =>
      match Kind.ofInteger? s with
      | some k => k
      | none =>
        if isPaddedNumber s then .text
        else (real? s).elim .text fun x => .number (.real x)

/-- The tree of a plain scalar without a tag. -/
def plain (s : String) : Except Fault Value :=
  match Kind.ofText s.toList with
  | .null => .ok .null
  | .bool b => .ok (.bool b)
  | .number n => .ok (.number n)
  | .tooLarge => .error .numberTooLarge
  | .text => .ok (.string s)

/-- Whether a text would not read as itself if it were written without quotes. -/
def isAmbiguous (s : String) : Bool :=
  Kind.ofText s.toList != .text || isPaddedNumber s.toList

/-- The tree of a scalar whose tag demands a kind; `none` for any other tag. -/
def demanded? (tag : String) (s : String) : Option (Except Fault Value) :=
  match tag with
  | "tag:yaml.org,2002:bool" => some <|
    match bool? s.toList with
    | some b => .ok (.bool b)
    | none => .error .mistypedScalar
  | "tag:yaml.org,2002:int" => some <|
    match Kind.ofInteger? s.toList with
    | some (.number n) => .ok (.number n)
    | _ => .error .mistypedScalar
  | "tag:yaml.org,2002:float" => some <|
    match real? s.toList with
    | some x => .ok (.number (.real x))
    | none => .error .mistypedScalar
  | "tag:yaml.org,2002:null" => some <|
    if isNull s.toList then .ok .null else .error .mistypedScalar
  | _ => none

end ParamFile.Yaml.Scalar
