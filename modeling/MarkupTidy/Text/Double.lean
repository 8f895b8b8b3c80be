/-!
# Text/Double — double-precision numbers, computed exactly

A double is a finite value `± m · 2 ^ e`, with a significand `m < 2 ^ 53` and an exponent
`e ≥ -1074`, an infinity, or not a number. An operation on doubles works out its exact result
and then rounds it to a double (`Double.round`): to the nearest one, and between two equally near
to the one with an even significand; a result of magnitude `2 ^ 1024` or more after rounding is
infinite. No machine float is involved, so every result is the one the standard prescribes, on
every input.

Decimal texts are read the same way (`Double.ofDecimal`): the decimal value is rounded once. The
sign of zero is not kept, since nothing here tells the two zeros apart.

Main statements: `round_zero` (zero rounds to zero) and `ofDecimal_zero`.
-/

namespace MarkupTidy.Text

/-- A double: a finite value `± m · 2 ^ e`, an infinity, or not a number. -/
inductive Double where
  | finite (negative : Bool) (m : Nat) (e : Int)
  | infinite (negative : Bool)
  | nan
  deriving DecidableEq, Repr

namespace Double

/-- The least exponent of a double: subnormal values are multiples of `2 ^ -1074`. -/
def leastExponent : Int := -1074

/-- The bits of a significand. -/
def precision : Nat := 53

/-- The greatest exponent a rounded significand below `2 ^ 53` may have: beyond it the value
reaches `2 ^ 1024`. -/
def greatestExponent : Int := 971

/-- `a · 2 ^ s / d` as a numerator and a denominator. -/
def scaled (a d : Nat) (s : Int) : Nat × Nat :=
  if 0 ≤ s then (a * Nat.pow 2 s.toNat, d) else (a, d * Nat.pow 2 (-s).toNat)

/-- The integer nearest to `n / d`, the even one of two equally near. -/
def nearestEven (n d : Nat) : Nat :=
  let q := n / d
  let r := n % d
  if d < 2 * r || (2 * r = d && q % 2 = 1) then q + 1 else q

/-- The double nearest to `± a / d · 2 ^ e`, for `d > 0`.

The exact value is scaled by a power of two so that its integer part has 53 bits, or fewer
when the exponent would fall below the least one, and then rounded to an integer. A rounding
that carries into a 54th bit is moved into the exponent. -/
def round (negative : Bool) (a d : Nat) (e : Int) : Double :=
  if a = 0 || d = 0 then .finite false 0 0
  else
    let s₀ : Int := (precision - 1 : Nat) - ((Nat.log2 a : Int) - Nat.log2 d)
    let s₁ := if (scaled a d s₀).1 / (scaled a d s₀).2 < Nat.pow 2 (precision - 1) then s₀ + 1
      else s₀
    let s := if e - s₁ < leastExponent then e - leastExponent else s₁
    let (n, d') := scaled a d s
    let m := nearestEven n d'
    let (m, exp) := if m = Nat.pow 2 precision then (m / 2, e - s + 1) else (m, e - s)
    if m = 0 then .finite false 0 0
    else if greatestExponent < exp then .infinite negative
    else .finite negative m exp

/-- Rounding zero gives zero. -/
theorem round_zero (negative : Bool) (d : Nat) (e : Int) :
    round negative 0 d e = .finite false 0 0 := by
  simp [round]

/-- The double nearest to a natural number. -/
def ofNat (n : Nat) : Double := round false n 1 0

/-- The double nearest to `± digits · 10 ^ power`. A value of more than 310 decimal places is
beyond every double, and one below `10 ^ -330` is nearer to zero than to the least positive
double, so neither power of ten is ever computed. -/
def ofDecimal (negative : Bool) (digits : Nat) (power : Int) : Double :=
  let places := (toString digits).length
  if digits = 0 then .finite false 0 0
  else if 310 < power + places then .infinite negative
  else if power + places < -330 then .finite false 0 0
  else if 0 ≤ power then round negative (digits * Nat.pow 10 power.toNat) 1 0
  else round negative digits (Nat.pow 10 (-power).toNat) 0

/-- Zero digits are zero. -/
theorem ofDecimal_zero (negative : Bool) (power : Int) :
    ofDecimal negative 0 power = .finite false 0 0 := by
  simp [ofDecimal]

/-- Whether a double is zero. -/
def isZero : Double → Bool
  | .finite _ m _ => m = 0
  | _ => false

/-- The product of two doubles. -/
def mul : Double → Double → Double
  | .nan, _ | _, .nan => .nan
  | .infinite n₁, .infinite n₂ => .infinite (n₁ != n₂)
  | .infinite n₁, .finite n₂ m _ | .finite n₂ m _, .infinite n₁ =>
    if m = 0 then .nan else .infinite (n₁ != n₂)
  | .finite n₁ m₁ e₁, .finite n₂ m₂ e₂ => round (n₁ != n₂) (m₁ * m₂) 1 (e₁ + e₂)

/-- A finite double as an integer times a power of two at or below its own exponent. -/
def signedAt (negative : Bool) (m : Nat) (e low : Int) : Int :=
  let v : Int := m * Nat.pow 2 (e - low).toNat
  if negative then -v else v

/-- The sum of two doubles. -/
def add : Double → Double → Double
  | .nan, _ | _, .nan => .nan
  | .infinite n₁, .infinite n₂ => if n₁ = n₂ then .infinite n₁ else .nan
  | .infinite n, .finite _ _ _ | .finite _ _ _, .infinite n => .infinite n
  | .finite n₁ m₁ e₁, .finite n₂ m₂ e₂ =>
    let low := if e₁ ≤ e₂ then e₁ else e₂
    let v := signedAt n₁ m₁ e₁ low + signedAt n₂ m₂ e₂ low
    round (v < 0) v.natAbs 1 low

end Double

end MarkupTidy.Text
