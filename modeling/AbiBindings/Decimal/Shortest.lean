/-!
# Decimal — shortest digits

A binary floating point number `m · 2^q` stands for every real number nearer to it than to its
neighbours. `shortest` finds the decimal with the fewest digits among those, and of several such
decimals the nearest. Everything is exact arithmetic on natural numbers: a comparison of
`a · 10^e` with `b · 2^p` is multiplied out until no exponent is negative.
-/

namespace AbiBindings

/-- A decimal number `digits · 10^exponent`. -/
structure Decimal where
  digits : Nat
  exponent : Int

namespace Decimal

/-! ## Numbers as products -/

/-- `significand · 2^exponent`, with the distance to the neighbour below. -/
structure Binary where
  significand : Nat
  exponent : Int
  /-- Whether the neighbour below is only half as far away as the one above. -/
  atPowerOfTwo : Bool

/-- The binary form of the magnitude of a finite double, from its bits. -/
def Binary.ofBits (bits : UInt64) : Binary :=
  let fraction : Nat := bits.toNat % Nat.pow 2 52
  let biased : Nat := bits.toNat / Nat.pow 2 52 % Nat.pow 2 11
  if biased = 0 then ⟨fraction, -1074, false⟩
  else ⟨Nat.pow 2 52 + fraction, (biased : Int) - 1075, fraction = 0 && biased ≠ 1⟩

/-- `a · 10^e` and `b · 2^p` on a common scale. -/
def onCommonScale (a : Nat) (e : Int) (b : Nat) (p : Int) : Nat × Nat :=
  (a * Nat.pow 10 e.toNat * Nat.pow 2 (-p).toNat, b * Nat.pow 2 p.toNat * Nat.pow 10 (-e).toNat)

/-- Whether `digits · 10^e` is read back as `x`. The ends of the interval round to the even
significand. -/
def readsBack (x : Binary) (e : Int) (digits : Nat) : Bool :=
  let below := 4 * x.significand - if x.atPowerOfTwo then 1 else 2
  let above := 4 * x.significand + 2
  let (low, lowEnd) := onCommonScale digits e below (x.exponent - 2)
  let (high, highEnd) := onCommonScale digits e above (x.exponent - 2)
  if x.significand % 2 = 0 then lowEnd ≤ low && high ≤ highEnd
  else lowEnd < low && high < highEnd

/-- The number of decimal digits of `n`. -/
def digitCount (n : Nat) : Nat := (Nat.toDigits 10 n).length

/-- The number of digits before the decimal point of `x`; zero or less if `x` is below one. A
negative power of two is made whole by as many factors of ten. -/
def magnitude (x : Binary) : Int :=
  digitCount (x.significand * Nat.pow 2 x.exponent.toNat * Nat.pow 5 (-x.exponent).toNat)
    - (-x.exponent).toNat

/-! ## The search -/

/-- The decimal on the grid of `10^e` that reads back as `x` and is nearest to it, if there is one.
Only the two neighbours of `x` on that grid can be. -/
def nearestOnGrid? (x : Binary) (e : Int) : Option Decimal :=
  let (unit, value) := onCommonScale 1 e x.significand x.exponent
  let low := value / unit
  let lowNearer :=
    let twice := 2 * (value % unit)
    twice < unit || (twice = unit && low % 2 = 0)
  match readsBack x e low, readsBack x e (low + 1) with
  | true, true => some ⟨if lowNearer then low else low + 1, e⟩
  | true, false => some ⟨low, e⟩
  | false, true => some ⟨low + 1, e⟩
  | false, false => none

/-- A ten, which the coarsest grid gives for a number just below a power of ten, has one digit. -/
def oneDigit (decimal : Decimal) : Decimal :=
  if decimal.digits = 10 then ⟨1, decimal.exponent + 1⟩ else decimal

/-- The shortest decimal that reads back as `x`. Seventeen digits always suffice. -/
def shortest (x : Binary) : Decimal :=
  if x.significand = 0 then ⟨0, 0⟩
  else
    -- the grids that leave one digit, two digits, and so on up to seventeen
    let grids := (List.range 17).map fun n => magnitude x - (n + 1 : Nat)
    ((grids.findSome? (nearestOnGrid? x)).getD ⟨x.significand, 0⟩).oneDigit

end Decimal

end AbiBindings
