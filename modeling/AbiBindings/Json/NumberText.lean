import AbiBindings.Decimal.Shortest
import AbiBindings.Json.Basic

/-!
# Json — how numbers are written

Whole numbers are written in full. A double has the fewest digits that read back; it is written
positionally, with at least one digit behind the point, while the power of ten of its first digit is
between `-5` and `15`, and with an exponent beyond.
-/

namespace AbiBindings.Json

/-- The powers of ten of the first digit between which a double is written positionally. -/
def positionalPowers : Int × Int := (-5, 15)

/-- `count` zeros. -/
def zeros (count : Nat) : String := String.ofList (List.replicate count '0')

/-- The point stands inside the digits, behind them or in front of them. -/
def positionalText (digits : String) (exponent : Int) : String :=
  let whole := exponent + digits.length
  if 0 ≤ exponent then digits ++ zeros exponent.toNat ++ ".0"
  else if 0 < whole then
    (digits.take whole.toNat).toString ++ "." ++ (digits.drop whole.toNat).toString
  else "0." ++ zeros (-whole).toNat ++ digits

/-- One digit, the others behind the point, and a signed power of ten. -/
def exponentText (digits : String) (power : Int) : String :=
  let fraction := (digits.drop 1).toString
  (digits.take 1).toString ++ (if fraction.isEmpty then "" else "." ++ fraction) ++ "e"
    ++ (if power < 0 then "-" else "+") ++ toString power.natAbs

/-- How a double is written. -/
def floatText (x : Float) : String :=
  let decimal := Decimal.shortest (.ofBits x.toBits)
  let digits := toString decimal.digits
  let power := decimal.exponent + (digits.length - 1 : Nat)
  let sign := if x.toBits.toNat < Nat.pow 2 63 then "" else "-"
  if positionalPowers.1 ≤ power && power ≤ positionalPowers.2 then
    sign ++ positionalText digits decimal.exponent
  else sign ++ exponentText digits power

/-- How a number is written. -/
def Number.text : Number → String
  | .unsigned value => toString value.toNat
  | .negative value => toString value.toInt
  | .float value => floatText value

end AbiBindings.Json
