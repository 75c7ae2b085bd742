import ParamFile.Number.Binary64

/-!
# Decimal notation of floating point

Reading: a decimal literal is an optional sign, digits with at most one point among them, and an
optional exponent; it denotes the nearest binary number. Writing: the fewest digits that read back as
the same number, and of those the ones nearest to it; positional from 10^-5 up to below 10^16, with
an exponent otherwise.
-/

namespace ParamFile.Number

/-! ## Literals -/

/-- The decimal digits at the head of a text. -/
def digitRun (s : List Char) : List Char × List Char := (s.takeWhile Char.isDigit, s.dropWhile Char.isDigit)

def natOfDigits (digits : List Char) : Nat := digits.foldl (fun n c => 10 * n + (c.toNat - 48)) 0

/-- A decimal literal: the number `digits` times the `exponent`-th power of ten. -/
structure Literal where
  negative : Bool
  digits : Nat
  exponent : Int
  deriving DecidableEq, Repr

def exponentPart? : List Char → Option Int
  | [] => some 0
  | e :: rest =>
    if e = 'e' ∨ e = 'E' then
      let (negative, rest) := match rest with
        | '-' :: r => (true, r)
        | '+' :: r => (false, r)
        | r => (false, r)
      match digitRun rest with
      | ([], _) => none
      | (ds, []) => some (if negative then -(natOfDigits ds : Int) else natOfDigits ds)
      | _ => none
    else none

def Literal.ofText? (s : List Char) : Option Literal :=
  let (negative, s) := match s with
    | '-' :: r => (true, r)
    | '+' :: r => (false, r)
    | r => (false, r)
  let (whole, s) := digitRun s
  let (fraction, s) := match s with
    | '.' :: r => digitRun r
    | r => ([], r)
  if whole.isEmpty && fraction.isEmpty then none
  else
    (exponentPart? s).map fun e =>
      ⟨negative, natOfDigits (whole ++ fraction), e - fraction.length⟩

/-- The binary number nearest to a literal. Literals far out of range are not worked out. -/
def Literal.toBinary (l : Literal) : Binary64 :=
  let magnitude := (Nat.toDigits 10 l.digits).length + l.exponent
  if l.digits = 0 ∨ magnitude < -330 then .zero l.negative
  else if 320 < magnitude then .infinite l.negative
  else if 0 ≤ l.exponent then .ofRatio l.negative (l.digits * Nat.pow 10 l.exponent.toNat) 1
  else .ofRatio l.negative l.digits (Nat.pow 10 (-l.exponent).toNat)

/-! ## Shortest digits -/

/-- A positive number with the interval of the reals that round to it, all over one denominator. -/
structure Neighbourhood where
  low : Nat
  value : Nat
  high : Nat
  den : Nat
  /-- Whether the ends of the interval round to the number too. -/
  closed : Bool

/-- The neighbourhood of `significand` times the `exponent`-th power of two. -/
def Neighbourhood.of (significand : Nat) (exponent : Int) : Neighbourhood :=
  let below := if significand = Nat.pow 2 52 ∧ Binary64.leastExponent < exponent then 1 else 2
  let q := exponent - 2
  let unit := Nat.pow 2 q.toNat
  ⟨(4 * significand - below) * unit, 4 * significand * unit, (4 * significand + 2) * unit,
    Nat.pow 2 (-q).toNat, significand % 2 = 0⟩

/-- Whether `num / den`, over the denominator of the neighbourhood, lies in the interval. -/
def Neighbourhood.contains (h : Neighbourhood) (num den : Nat) : Bool :=
  let below := h.low * den
  let above := h.high * den
  if h.closed then below ≤ num && num ≤ above else below < num && num < above

/-- A multiple of the `p`-th power of ten in the interval, the nearest to its value. -/
def Neighbourhood.multiple? (h : Neighbourhood) (p : Int) : Option Nat :=
  let up := Nat.pow 10 p.toNat
  let down := Nat.pow 10 (-p).toNat
  -- the value is `h.value * down / (h.den * up)` in units of the power of ten
  let f := h.value * down / (h.den * up)
  let point (k : Nat) : Nat := k * up * h.den
  let lower := h.contains (point f) down
  let upper := h.contains (point (f + 1)) down
  if lower && upper then
    if h.value * down - point f ≤ point (f + 1) - h.value * down then some f else some (f + 1)
  else if lower then some f
  else if upper then some (f + 1)
  else none

/-- The digits and the power of ten that write a positive number in the fewest digits. -/
def shortest (significand : Nat) (exponent : Int) : Nat × Int :=
  let h := Neighbourhood.of significand exponent
  let powers := (List.range 634).map fun (i : Nat) => (309 : Int) - i
  (powers.findSome? fun p => (h.multiple? p).map (·, p)).getD (0, 0)

/-! ## Text -/

/-- Positional or scientific notation of `digits` times the `exponent`-th power of ten. -/
def positional (digits : Nat) (exponent : Int) : List Char :=
  let ds := Nat.toDigits 10 digits
  let point : Int := ds.length + exponent
  if 0 ≤ exponent ∧ point ≤ 16 then ds ++ List.replicate exponent.toNat '0' ++ ['.', '0']
  else if 0 < point ∧ point ≤ 16 then ds.take point.toNat ++ '.' :: ds.drop point.toNat
  else if -5 < point ∧ point ≤ 0 then '0' :: '.' :: List.replicate (-point).toNat '0' ++ ds
  else
    let mark := 'e' :: (toString (point - 1)).toList
    match ds with
    | [d] => d :: mark
    | d :: rest => d :: '.' :: rest ++ mark
    | [] => mark

def Binary64.text : Binary64 → String
  | .finite negative 0 _ => if negative then "-0.0" else "0.0"
  | .finite negative significand exponent =>
    let (digits, power) := shortest significand exponent
    let body := positional digits power
    .ofList (if negative then '-' :: body else body)
  | .infinite negative => if negative then "-.inf" else ".inf"
  | .nan => ".nan"

end ParamFile.Number
