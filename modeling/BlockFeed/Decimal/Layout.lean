import BlockFeed.Decimal.Shortest

/-!
# How a floating-point number is laid out

The shortest digits say which number is meant; a layout says how they are
written. Numbers of ordinary size are written plainly with at least one
decimal, all others with one digit before the point and an exponent.
-/

namespace BlockFeed
namespace Decimal

/-- The decisions about the written form of a floating-point number. -/
structure Layout where
  /-- Least power of ten that is still written plainly. -/
  leastPlain : Int
  /-- Least power of ten that is no longer written plainly. -/
  leastLarge : Int
  /-- Sign before an exponent that is not negative. -/
  positiveExponent : String
  deriving DecidableEq, Repr

/-- Numbers in JSON texts are plain from 0.00001 up to 10 to the 16th, and a
positive exponent has a plus sign. -/
def Layout.json : Layout := ⟨-5, 16, "+"⟩

/-- Numbers in descriptions of settings are plain from 0.0001 up to 10 to the
16th, and a positive exponent has no sign. -/
def Layout.settings : Layout := ⟨-4, 16, ""⟩

/-- `count` zeros. -/
def zeros (count : Nat) : String :=
  String.ofList (List.replicate count '0')

/-- The written form of a positive decimal without trailing zeros. -/
def Layout.renderPositive (layout : Layout) (number : Scientific) : String :=
  let digits := Nat.toDigits 10 number.digits
  let power : Int := number.exponent + digits.length - 1
  if layout.leastPlain ≤ power && power < layout.leastLarge then
    if power < 0 then
      "0." ++ zeros ((-power).toNat - 1) ++ String.ofList digits
    else
      let whole := digits.take (power.toNat + 1)
      let rest := digits.drop (power.toNat + 1)
      String.ofList whole ++ zeros (power.toNat + 1 - digits.length) ++ "." ++
        (if rest.isEmpty then "0" else String.ofList rest)
  else
    let sign := if power < 0 then "-" else layout.positiveExponent
    let fraction := digits.drop 1
    String.ofList (digits.take 1) ++
      (if fraction.isEmpty then "" else "." ++ String.ofList fraction) ++
      "e" ++ sign ++ toString power.natAbs

/-- The written form of a floating-point number. -/
def Layout.render (layout : Layout) (value : Float) : String :=
  let bits : Nat := value.toBits.toNat
  let sign := if Nat.pow 2 63 ≤ bits then "-" else ""
  let fraction : Nat := bits % Nat.pow 2 52
  if bits / Nat.pow 2 52 % Nat.pow 2 11 == 2047 then
    if fraction == 0 then sign ++ "inf" else "NaN"
  else if bits % Nat.pow 2 63 == 0 then sign ++ "0.0"
  else sign ++ layout.renderPositive (Binary.ofFloat value).shortest

example : Layout.json.render 1e16 = "1e+16" := by decide +kernel

example : Layout.json.render 0.00001 = "0.00001" := by decide +kernel

example : Layout.json.render 123456789.125 = "123456789.125" := by decide +kernel

end Decimal
end BlockFeed
