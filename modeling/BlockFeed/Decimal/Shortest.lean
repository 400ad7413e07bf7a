/-!
# The fewest digits that read back

A binary floating-point number stands for every real number that rounds to it.
Its shortest decimal is the decimal with the fewest digits among those reals,
and the nearest to the number itself when several have that many digits. All
of this is decided in exact arithmetic on natural numbers.
-/

namespace BlockFeed
namespace Decimal

/-- A finite positive binary number `significand * 2 ^ exponent`. -/
structure Binary where
  significand : Nat
  exponent : Int
  /-- Whether the next smaller number is only half as far as the next larger
  one, as it is below a power of two. -/
  narrowBelow : Bool
  deriving DecidableEq, Repr

/-- A positive decimal `digits * 10 ^ exponent`. -/
structure Scientific where
  digits : Nat
  exponent : Int
  deriving DecidableEq, Repr

/-- A nonnegative rational number; the denominator is positive. -/
structure Ratio where
  numerator : Nat
  denominator : Nat
  deriving DecidableEq, Repr

/-- `factor * base ^ exponent` as a rational number. -/
def Ratio.scaled (factor base : Nat) (exponent : Int) : Ratio :=
  if 0 ≤ exponent then ⟨factor * base.pow exponent.toNat, 1⟩
  else ⟨factor, base.pow (-exponent).toNat⟩

/-- Whether `left ≤ right`. -/
def Ratio.le (left right : Ratio) : Bool :=
  left.numerator * right.denominator ≤ right.numerator * left.denominator

/-- Whether `left < right`. -/
def Ratio.lt (left right : Ratio) : Bool :=
  left.numerator * right.denominator < right.numerator * left.denominator

/-- The greatest natural number `n` with `n * unit ≤ value`. -/
def Ratio.quotient (value unit : Ratio) : Nat :=
  value.numerator * unit.denominator / (value.denominator * unit.numerator)

/-- The number itself. -/
def Binary.value (number : Binary) : Ratio :=
  Ratio.scaled (4 * number.significand) 2 (number.exponent - 2)

/-- The least real number that can round to the number. -/
def Binary.lowest (number : Binary) : Ratio :=
  let step := if number.narrowBelow then 1 else 2
  Ratio.scaled (4 * number.significand - step) 2 (number.exponent - 2)

/-- The greatest real number that can round to the number. -/
def Binary.highest (number : Binary) : Ratio :=
  Ratio.scaled (4 * number.significand + 2) 2 (number.exponent - 2)

/-- Whether a real number rounds to the number. The two ends of the interval
belong to it exactly when the significand is even. -/
def Binary.covers (number : Binary) (candidate : Ratio) : Bool :=
  if number.significand % 2 == 0 then
    number.lowest.le candidate && candidate.le number.highest
  else number.lowest.lt candidate && candidate.lt number.highest

/-- Number of decimal digits of a natural number. -/
def digitCount (value : Nat) : Nat :=
  (Nat.toDigits 10 value).length

/-- The exponent of the power of ten just below or at a positive number. -/
def Ratio.magnitude (value : Ratio) : Int :=
  if value.denominator ≤ value.numerator then
    (digitCount (value.numerator / value.denominator) : Int) - 1
  else
    let places := digitCount (value.denominator / value.numerator)
    if value.denominator ≤ value.numerator * Nat.pow 10 (places - 1) then
      -((places : Int) - 1)
    else -(places : Int)

/-- The nearer of the number's two neighbours with `count` digits, among those
that round to the number. An exact tie goes to the even neighbour. -/
def Binary.neighbour? (number : Binary) (count : Nat) : Option Scientific :=
  let value := number.value
  let exponent := value.magnitude - count + 1
  let unit := Ratio.scaled 1 10 exponent
  let below := value.quotient unit
  let above := below + 1
  let at_ (digits : Nat) := Ratio.scaled digits 10 exponent
  let middle := Ratio.scaled (5 * (below + above)) 10 (exponent - 1)
  match number.covers (at_ below), number.covers (at_ above) with
  | false, false => none
  | true, false => some ⟨below, exponent⟩
  | false, true => some ⟨above, exponent⟩
  | true, true =>
      if value.lt middle || (value.le middle && below % 2 == 0) then
        some ⟨below, exponent⟩
      else some ⟨above, exponent⟩

/-- Remove trailing zeros from the digits, at most `fuel` of them. -/
def Scientific.trimmed (number : Scientific) : Nat -> Scientific
  | 0 => number
  | fuel + 1 =>
      if number.digits % 10 == 0 then
        Scientific.trimmed ⟨number.digits / 10, number.exponent + 1⟩ fuel
      else number

/-- The shortest decimal that rounds to a positive binary number. Seventeen
digits are always enough. -/
def Binary.shortest (number : Binary) : Scientific :=
  let found := (List.range 17).findSome? fun index => number.neighbour? (index + 1)
  (found.getD ⟨0, 0⟩).trimmed 20

/-- The finite positive number behind the bits of a float, without its sign. -/
def Binary.ofFloat (value : Float) : Binary :=
  let bits : Nat := value.toBits.toNat
  let fraction : Nat := bits % Nat.pow 2 52
  let biased : Nat := bits / Nat.pow 2 52 % Nat.pow 2 11
  if biased == 0 then ⟨fraction, -1074, false⟩
  else ⟨Nat.pow 2 52 + fraction, (biased : Int) - 1075, fraction == 0 && 1 < biased⟩

example : (Binary.ofFloat 5e-324).shortest = ⟨5, -324⟩ := by decide +kernel

example : (Binary.ofFloat 0.1).shortest = ⟨1, -1⟩ := by decide +kernel

end Decimal
end BlockFeed
