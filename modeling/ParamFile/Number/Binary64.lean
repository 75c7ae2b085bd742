import ParamFile.Number.Rounding

/-!
# Binary floating point

Numbers of 64-bit binary floating point as exact values: a finite number is a sign, a whole
significand below 2^53 and a power of two not below 2^-1074. `ofRatio` rounds a quotient of natural
numbers to the nearest such number, a half to the even significand; beyond the largest finite number
it answers infinity.

`same` is the equality by which numbers are told apart as keys: a number that is none equals itself,
and the two zeros are one.
-/

namespace ParamFile.Number

/-- A number of 64-bit binary floating point. -/
inductive Binary64 where
  /-- `significand` times the `exponent`-th power of two. -/
  | finite (negative : Bool) (significand : Nat) (exponent : Int)
  | infinite (negative : Bool)
  /-- Not a number. -/
  | nan
  deriving DecidableEq, Repr, Inhabited

namespace Binary64

def leastExponent : Int := -1074

def largestExponent : Int := 971

/-- Zero with a sign. -/
def zero (negative : Bool) : Binary64 := .finite negative 0 leastExponent

def isFinite : Binary64 → Bool
  | .finite .. => true
  | _ => false

def isZero : Binary64 → Bool
  | .finite _ 0 _ => true
  | _ => false

def same (a b : Binary64) : Bool := (a.isZero && b.isZero) || a = b

/-- `num / den` divided by the `q`-th power of two, as a quotient. -/
def scale (num den : Nat) (q : Int) : Nat × Nat :=
  if 0 ≤ q then (num, den * Nat.pow 2 q.toNat) else (num * Nat.pow 2 (-q).toNat, den)

/-- The exponent at which `num / den` has a significand of 53 bits, or the least one. -/
def exponentOf (num den : Nat) : Int :=
  let e := (num.log2 : Int) - den.log2
  let (n, d) := scale num den e
  max (if d ≤ n then e - 52 else e - 53) leastExponent

/-- The number nearest to `num / den`. -/
def ofRatio (negative : Bool) (num den : Nat) : Binary64 :=
  if num = 0 then zero negative
  else
    let q := exponentOf num den
    let (n, d) := scale num den q
    let m := roundHalfEven n d
    let (m, q) := if m = Nat.pow 2 53 then (Nat.pow 2 52, q + 1) else (m, q)
    if largestExponent < q then .infinite negative
    else if m = 0 then zero negative
    else .finite negative m q

@[simp] theorem same_self (x : Binary64) : same x x = true := by simp [same]

end Binary64

end ParamFile.Number
