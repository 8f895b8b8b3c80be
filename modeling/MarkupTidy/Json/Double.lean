import MarkupTidy.Text.Double

/-!
# Json/Double — decimal numbers read as doubles

A JSON number with a fraction or an exponent is read as the double nearest to it, ties to the
even significand; one beyond the largest double is an infinity (`Text.Double.ofDecimal`).
`decimalAsInteger` tells which integer, if any, a decimal is once read that way.
-/

namespace MarkupTidy.Json

open MarkupTidy.Text

/-- The integer a decimal `m × 10 ^ e` stands for once read as a double: `none` when it is not
finite, `some none` when the double is not a whole number. -/
def decimalAsInteger (m e : Int) : Option (Option Int) :=
  match Double.ofDecimal (m < 0) m.natAbs e with
  | .finite negative n k =>
    let sign : Int := if negative then -1 else 1
    if 0 ≤ k then some (some (sign * (n * Nat.pow 2 k.toNat : Nat)))
    else if n % Nat.pow 2 (-k).toNat = 0 then
      some (some (sign * (n / Nat.pow 2 (-k).toNat : Nat)))
    else some none
  | _ => none

/-- Whether a decimal `m × 10 ^ e` is finite once read as a double. -/
def decimalIsFinite (m e : Int) : Bool :=
  match Double.ofDecimal (m < 0) m.natAbs e with
  | .finite _ _ _ => true
  | _ => false

end MarkupTidy.Json
