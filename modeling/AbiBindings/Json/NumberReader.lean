import AbiBindings.Json.Basic
import AbiBindings.Json.Cursor

/-!
# Json — reading numbers

A number is read into a significand of at most 64 bits and a power of ten. Digits that no longer fit
are dropped, those before the point counting towards the power. Without fraction and exponent the
significand is the number; otherwise it is multiplied or divided by the power of ten as doubles are,
with one rounding for each step, and a result beyond the largest double is refused.
-/

namespace AbiBindings.Json

/-- A number in the making: `significand · 10^exponent`, with its sign. -/
structure Scaled where
  negative : Bool
  significand : Nat
  exponent : Int

/-- The double `10^power`, for `power ≤ 308`. -/
def tenTo (power : Nat) : Float := Float.ofScientific 1 false power

/-- `x / 10^power`, in steps of at most 308 until nothing is left. Two steps exhaust any
significand. -/
def scaleDown (x : Float) (power : Nat) : Nat → Float
  | 0 => x
  | steps + 1 =>
    if power ≤ 308 then x / tenTo power
    else if x == 0 then x
    else scaleDown (x / tenTo 308) (power - 308) steps

/-- The double that a scaled number stands for, unless it is too large. -/
def Scaled.toFloat? (n : Scaled) : Option Float :=
  let x := (UInt64.ofNat n.significand).toFloat
  let magnitude? :=
    if n.exponent < 0 then some (scaleDown x n.exponent.natAbs 4)
    else if 308 < n.exponent then if x == 0 then some x else none
    else
      let scaled := x * tenTo n.exponent.toNat
      if scaled.isInf then none else some scaled
  magnitude?.map fun magnitude => if n.negative then -magnitude else magnitude

/-- The double for a scaled number that has been read. -/
def Scaled.finish (n : Scaled) : Reading Number := do
  match n.toFloat? with
  | some x => return .float x
  | none => stop .numberOutOfRange

/-- Take digits into `value` as long as it stays below `bound`: the value, and how many were taken.
A digit that does not fit is left. -/
def readDigits (bound : Nat) (value : Nat) : Nat → Reading (Nat × Nat)
  | 0 => return (value, 0)
  | fuel + 1 => do
    match ← peek? with
    | some byte =>
      let longer := value * 10 + (byte.toNat - 48)
      if isDigit byte && longer < bound then
        advance
        let (value, count) ← readDigits bound longer fuel
        return (value, count + 1)
      else return (value, 0)
    | none => return (value, 0)

/-- Whether the next byte is a digit. -/
def atDigit : Reading Bool := do
  return (← peek?).any isDigit

/-- Whether the next byte is one of `bytes`. -/
def atAny (bytes : List UInt8) : Reading Bool := do
  return (← peek?).any bytes.contains

/-- Read what follows the letter `e` or `E`. An exponent beyond 31 bits makes anything but zero too
large, or makes it zero. -/
def readExponent (n : Scaled) : Reading Number := do
  advance
  -- a minus sign, or a sign of either kind
  let down ← atAny [45]
  if ← atAny [43, 45] then advance
  match ← peek? with
  | none => stop .eofInValue
  | some byte => unless isDigit byte do
    advance
    stop .invalidNumber
  let (power, _) ← readDigits (Nat.pow 2 31) 0 (← remaining)
  if ← atDigit then
    -- the digit that no longer fits is taken before anything is said about it
    advance
    if n.significand ≠ 0 && !down then stop .numberOutOfRange
    let _ ← skipWhile isDigit
    return .float (if n.negative then -0.0 else 0.0)
  else Scaled.finish { n with exponent := if down then n.exponent - power else n.exponent + power }

/-- Read the exponent if one follows. -/
def readScale (n : Scaled) : Reading Number := do
  if ← atAny [69, 101] then readExponent n else n.finish

/-- Read what follows the point. -/
def readFraction (n : Scaled) : Reading Number := do
  advance
  let (significand, count) ← readDigits (Nat.pow 2 64) n.significand (← remaining)
  let n := { n with significand, exponent := n.exponent - count }
  if ← atDigit then
    let _ ← skipWhile isDigit
  else if count = 0 then
    if (← peek?).isSome then stopAtPeek .invalidNumber else stopAtPeek .eofInValue
  readScale n

/-- The number without fraction and exponent that has this significand. Zero has a sign only as a
double. -/
def wholeNumber (negative : Bool) (significand : Nat) : Number :=
  if !negative then .unsigned (UInt64.ofNat significand)
  else if 0 < significand && significand ≤ Nat.pow 2 63 then .negative (Int64.ofInt (-significand))
  else .float (-(UInt64.ofNat significand).toFloat)

/-- Read a number from its first digit on. -/
def readUnsigned (negative : Bool) : Reading Number := do
  match ← take? with
  | none => stop .eofInValue
  | some first =>
    unless isDigit first do stop .invalidNumber
    -- nothing but a point or an exponent follows a leading zero
    if first == 48 then
      if ← atDigit then stopAtPeek .invalidNumber
    let (significand, _) ← readDigits (Nat.pow 2 64) (first.toNat - 48) (← remaining)
    let dropped ← skipWhile isDigit
    let n : Scaled := ⟨negative, significand, dropped⟩
    if ← atAny [46] then readFraction n
    else if (← atAny [69, 101]) || dropped ≠ 0 then readScale n
    else return wholeNumber negative significand

/-- Read a number from its sign on. -/
def readNumber : Reading Number := do
  if ← atAny [45] then
    advance
    readUnsigned true
  else readUnsigned false

end AbiBindings.Json
