/-!
# Punycode

A label with characters beyond ASCII is written in ASCII: first its ASCII
characters, then, behind a hyphen, where the other characters are to be put in,
in the order of their code points. Each place is a number of digits to base 36
whose thresholds adapt to the numbers before it.
-/

namespace BlockFeed
namespace Url
namespace Punycode

/-- The digit for a value below 36. -/
def digit (value : Nat) : Char :=
  if value < 26 then Char.ofNat ('a'.toNat + value)
  else Char.ofNat ('0'.toNat + (value - 26))

/-- The value of a digit. -/
def digitValue? (character : Char) : Option Nat :=
  if 'a' ≤ character && character ≤ 'z' then some (character.toNat - 'a'.toNat)
  else if 'A' ≤ character && character ≤ 'Z' then some (character.toNat - 'A'.toNat)
  else if '0' ≤ character && character ≤ '9' then some (character.toNat - '0'.toNat + 26)
  else none

/-- The threshold of the digit at a position, which counts in steps of 36. -/
def threshold (position bias : Nat) : Nat :=
  if position ≤ bias then 1 else if bias + 26 ≤ position then 26 else position - bias

theorem threshold_pos (position bias : Nat) : 0 < threshold position bias := by
  unfold threshold
  split
  · omega
  · split <;> omega

/-- Divide a number down to at most 455, counting in steps of 36. -/
def damp (position delta : Nat) : Nat × Nat :=
  if 455 < delta then damp (position + 36) (delta / 35) else (position, delta)
termination_by delta
decreasing_by omega

/-- The bias behind a number, where `count` characters are in place and `first`
tells whether it was the first number. -/
def adapt (delta count : Nat) (first : Bool) : Nat :=
  let halved := if first then delta / 700 else delta / 2
  let (position, rest) := damp 0 (halved + halved / count)
  position + 36 * rest / (rest + 38)

/-- The digits of a number. -/
def encodeNumber (bias position value : Nat) : List Char :=
  if value < threshold position bias then [digit value]
  else
    digit (threshold position bias +
        (value - threshold position bias) % (36 - threshold position bias)) ::
      encodeNumber bias (position + 36)
        ((value - threshold position bias) / (36 - threshold position bias))
termination_by value
decreasing_by
  have := threshold_pos position bias
  have := Nat.div_le_self (value - threshold position bias) (36 - threshold position bias)
  omega

/-- A label that is being written. -/
structure Encoder where
  output : List Char
  delta : Nat
  bias : Nat
  /-- How many characters are in place. -/
  placed : Nat

/-- Pass one character of the label while those with code point `point` are put
in. -/
def Encoder.pass (basic point : Nat) (encoder : Encoder) (character : Char) : Encoder :=
  if character.toNat < point then { encoder with delta := encoder.delta + 1 }
  else if character.toNat == point then
    { output := encoder.output ++ encodeNumber encoder.bias 36 encoder.delta
      delta := 0
      bias := adapt encoder.delta (encoder.placed + 1) (encoder.placed == basic)
      placed := encoder.placed + 1 }
  else encoder

/-- Put in the characters with each of the code points in turn. -/
def encodePoints (label : List Char) (basic : Nat) : Nat -> List Nat -> Encoder -> Encoder
  | _, [], encoder => encoder
  | next, point :: rest, encoder =>
      let moved :=
        { encoder with
          delta := encoder.delta + (point - next) * (encoder.placed + 1) }
      let passed := label.foldl (Encoder.pass basic point) moved
      encodePoints label basic (point + 1) rest { passed with delta := passed.delta + 1 }

/-- The code points beyond ASCII of a label, ascending and each of them once. -/
def points (label : List Char) : List Nat :=
  ((label.map Char.toNat).filter (0x80 ≤ ·)).eraseDups.mergeSort

/-- A label in ASCII. -/
def encode (label : List Char) : List Char :=
  let basic := label.filter fun character => character.toNat < 0x80
  let start : Encoder :=
    { output := if basic.isEmpty then [] else basic ++ ['-']
      delta := 0
      bias := 72
      placed := basic.length }
  (encodePoints label basic.length 0x80 (points label) start).output

/-- Read a number: its value and what follows it. -/
def decodeNumber (bias : Nat) :
    (position weight value : Nat) -> List Char -> Option (Nat × List Char)
  | _, _, _, [] => none
  | position, weight, value, character :: rest =>
      match digitValue? character with
      | none => none
      | some digit =>
          let value := value + digit * weight
          if digit < threshold position bias then some (value, rest)
          else
            decodeNumber bias (position + 36) (weight * (36 - threshold position bias))
              value rest

/-- Put characters in as the numbers tell. At most `steps` numbers are read. -/
def decodePoints : Nat -> (bias point place : Nat) -> List Char -> List Char ->
    Option (List Char)
  | _, _, _, _, known, [] => some known
  | 0, _, _, _, _, _ => none
  | steps + 1, bias, point, place, known, digits =>
      match decodeNumber bias 36 1 place digits with
      | none => none
      | some (target, rest) =>
          let count := known.length + 1
          let next := point + target / count
          if 0x10ffff < next || (0xd800 ≤ next && next ≤ 0xdfff) then none
          else
            decodePoints steps (adapt (target - place) count (place == 0))
              next (target % count + 1)
              (known.insertIdx (target % count) (Char.ofNat next)) rest

/-- The label that was written in ASCII. -/
def decode (text : List Char) : Option (List Char) :=
  let digits := (text.reverse.takeWhile (· != '-')).reverse
  let basic := (text.take (text.length - digits.length)).dropLast
  decodePoints (digits.length + 1) 72 0x80 0 basic digits

example : encode "b\u00fccher".toList = "bcher-kva".toList := by decide +kernel

example : decode "bcher-kva".toList = some "b\u00fccher".toList := by decide +kernel

end Punycode
end Url
end BlockFeed
