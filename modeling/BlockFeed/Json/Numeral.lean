import BlockFeed.Bytes
import BlockFeed.Json.Problem

/-!
# Numbers in a JSON text

A numeral is read as written and then turned into a number. A numeral without
fraction and exponent is an integer when it fits into 64 bits. Any other numeral
becomes a floating-point number: its leading digits, as many as fit into 64
bits, are converted and then multiplied or divided by a power of ten.
-/

namespace BlockFeed
namespace Json

/-- The value of an ASCII digit. -/
def digit? (octet : UInt8) : Option Nat :=
  if 0x30 ≤ octet && octet ≤ 0x39 then some (octet.toNat - 0x30) else none

/-- The digits at the beginning of the input, and what follows them. -/
def spanDigits : Bytes -> List Nat × Bytes
  | [] => ([], [])
  | octet :: rest =>
      match digit? octet with
      | some digit =>
          let (digits, remaining) := spanDigits rest
          (digit :: digits, remaining)
      | none => ([], octet :: rest)

/-- A number as it is written. -/
structure Numeral where
  negative : Bool
  whole : List Nat
  /-- Digits after the point, if there is one. -/
  fraction : Option (List Nat)
  /-- Sign and digits of the exponent, if there is one. -/
  exponent : Option (Bool × List Nat)
  deriving DecidableEq, Repr

namespace Numeral

/-- The greatest number of 64 bits. -/
def greatest : Nat := UInt64.size - 1

/-- The greatest exponent that is still added up. -/
def greatestExponent : Nat := Nat.pow 2 31 - 1

/-- The problem of a numeral that stops where a digit is needed. -/
def missingDigit : Bytes -> Problem
  | [] => .endInValue
  | _ :: _ => .invalidNumber

/-- Read the exponent behind its letter. -/
def readExponent (input : Bytes) : Except Problem ((Bool × List Nat) × Bytes) :=
  let (negative, rest) :=
    match input with
    | 0x2b :: rest => (false, rest)
    | 0x2d :: rest => (true, rest)
    | rest => (false, rest)
  match spanDigits rest with
  | ([], remaining) => .error (missingDigit remaining)
  | (digits, remaining) => .ok ((negative, digits), remaining)

/-- Read an exponent if one begins here. -/
def readExponent? : Bytes -> Except Problem (Option (Bool × List Nat) × Bytes)
  | octet :: rest =>
      if octet == 0x65 || octet == 0x45 then
        (readExponent rest).map fun (exponent, remaining) => (some exponent, remaining)
      else .ok (none, octet :: rest)
  | [] => .ok (none, [])

/-- Read a fraction if one begins here. -/
def readFraction? : Bytes -> Except Problem (Option (List Nat) × Bytes)
  | 0x2e :: rest =>
      match spanDigits rest with
      | ([], remaining) => .error (missingDigit remaining)
      | (digits, remaining) => .ok (some digits, remaining)
  | rest => .ok (none, rest)

/-- Read the digits before the point. A leading zero stands alone. -/
def readWhole (input : Bytes) : Except Problem (List Nat × Bytes) :=
  match spanDigits input with
  | ([], remaining) => .error (missingDigit remaining)
  | (0 :: _ :: _, _) => .error .invalidNumber
  | (digits, remaining) => .ok (digits, remaining)

/-- Read a numeral behind its sign. -/
def readUnsigned (negative : Bool) (input : Bytes) : Except Problem (Numeral × Bytes) := do
  let (whole, afterWhole) ← readWhole input
  let (fraction, afterFraction) ← readFraction? afterWhole
  let (exponent, rest) ← readExponent? afterFraction
  return (⟨negative, whole, fraction, exponent⟩, rest)

/-- Read a numeral. -/
def read : Bytes -> Except Problem (Numeral × Bytes)
  | 0x2d :: rest => readUnsigned true rest
  | rest => readUnsigned false rest

/-- Add digits to a significand as long as it stays within `limit`: the
significand, how many digits went into it, and how many are left. -/
def accumulate (limit significand : Nat) : List Nat -> Nat × Nat × Nat
  | [] => (significand, 0, 0)
  | digit :: rest =>
      if significand * 10 + digit ≤ limit then
        let (result, used, left) := accumulate limit (significand * 10 + digit) rest
        (result, used + 1, left)
      else (significand, 0, rest.length + 1)

/-- A power of ten up to 10^308 as a floating-point number. -/
def powerOfTen (exponent : Nat) : Float :=
  Float.ofScientific 1 false exponent

/-- Multiply by a power of ten. Powers beyond 10^308 are divided out in several
steps; three steps reach zero from any 64-bit significand. -/
def scale (exponent : Int) (value : Float) : Nat -> Except Problem Float
  | 0 => .ok 0
  | steps + 1 =>
      if exponent.natAbs ≤ 308 then
        if 0 ≤ exponent then
          let product := value * powerOfTen exponent.natAbs
          if product.isInf then .error .numberOutOfRange else .ok product
        else .ok (value / powerOfTen exponent.natAbs)
      else if value == 0 then .ok value
      else if 0 ≤ exponent then .error .numberOutOfRange
      else scale (exponent + 308) (value / powerOfTen 308) steps

/-- `significand * 10 ^ exponent` with a sign. -/
def approximate (negative : Bool) (significand : Nat) (exponent : Int) :
    Except Problem Number := do
  let value ← scale exponent significand.toUInt64.toFloat 5
  return .float (if negative then -value else value)

/-- The number that a numeral stands for. -/
def value (numeral : Numeral) : Except Problem Number :=
  let (whole, _, dropped) := accumulate greatest 0 numeral.whole
  let (significand, places, _) :=
    accumulate greatest whole (numeral.fraction.getD [])
  let point : Int := (dropped : Int) - places
  match numeral.exponent with
  | some (negative, digits) =>
      let (power, _, left) := accumulate greatestExponent 0 digits
      if left == 0 then
        approximate numeral.negative significand
          (if negative then point - power else point + power)
      else if significand != 0 && !negative then .error .numberOutOfRange
      else .ok (.float (if numeral.negative then -0.0 else 0.0))
  | none =>
      if numeral.fraction.isSome || dropped != 0 then
        approximate numeral.negative significand point
      else if !numeral.negative then .ok (.natural significand.toUInt64)
      else if significand == 0 || Nat.pow 2 63 < significand then
        .ok (.float (-significand.toUInt64.toFloat))
      else .ok (.negative significand.toUInt64)

end Numeral
end Json
end BlockFeed
