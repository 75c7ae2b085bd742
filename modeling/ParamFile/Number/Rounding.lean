/-!
# Rounding to the nearest

The nearest natural number to a quotient, a half going to the even neighbour.
-/

namespace ParamFile.Number

/-- The natural number nearest to `num / den`; of two that are equally near, the even one. -/
def roundHalfEven (num den : Nat) : Nat :=
  let q := num / den
  let r := num % den
  if 2 * r < den then q
  else if den < 2 * r then q + 1
  else if q % 2 = 0 then q else q + 1

end ParamFile.Number
