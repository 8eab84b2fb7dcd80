/-!
Rounding a quotient of natural numbers to a whole number.
-/
namespace TunnelSettings

/-- The whole number nearest to `num / den`; of two equally near ones, the even one. -/
def roundHalfEven (num den : Nat) : Nat :=
  let q := num / den
  let twice := 2 * (num % den)
  if den < twice || (twice = den && q % 2 = 1) then q + 1 else q

end TunnelSettings
