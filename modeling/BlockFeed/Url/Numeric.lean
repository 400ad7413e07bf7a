import BlockFeed.Text.Quoted

/-!
# Numeric hosts

A host may be given by its number. The older kind has 32 bits and is written as
up to four parts between dots, each in decimal, octal or hexadecimal; the last
part fills what the others leave. The newer kind has eight pieces of 16 bits in
hexadecimal between colons, of which one run of zeros may be left out and the
last two may be written in the older form.
-/

namespace BlockFeed
namespace Url

/-! ## Four parts -/

/-- The value of a digit in a base up to 16. -/
def digitIn? (base : Nat) (character : Char) : Option Nat :=
  let value :=
    if '0' ≤ character && character ≤ '9' then some (character.toNat - '0'.toNat)
    else if 'a' ≤ character && character ≤ 'f' then some (character.toNat - 'a'.toNat + 10)
    else if 'A' ≤ character && character ≤ 'F' then some (character.toNat - 'A'.toNat + 10)
    else none
  value.filter (· < base)

/-- The number that digits stand for. -/
def natIn? (base : Nat) (digits : List Char) : Option Nat :=
  digits.foldlM (fun value character =>
    (digitIn? base character).map (value * base + ·)) 0

/-- The number that a part of a host stands for; its beginning tells the
base. -/
def part? : List Char -> Option Nat
  | [] => none
  | '0' :: 'x' :: digits => natIn? 16 digits
  | '0' :: 'X' :: digits => natIn? 16 digits
  | '0' :: digits => natIn? 8 digits
  | digits => natIn? 10 digits

/-- The pieces of a list between the characters equal to `separator`. -/
def piecesBetween (separator : Char) : List Char -> List (List Char)
  | [] => [[]]
  | character :: rest =>
      if character == separator then [] :: piecesBetween separator rest
      else
        match piecesBetween separator rest with
        | [] => [[character]]
        | piece :: others => (character :: piece) :: others

/-- The parts of a host between its dots, without an empty one at the end. -/
def parts (host : List Char) : List (List Char) :=
  let pieces := piecesBetween '.' host
  if pieces.getLast? == some [] then pieces.dropLast else pieces

/-- Whether the last part of a host is a number, so that all of it has to be. -/
def endsInNumber (host : List Char) : Bool :=
  match (parts host).getLast? with
  | some last =>
      !last.isEmpty && (last.all (fun character => (digitIn? 10 character).isSome) ||
        (part? last).isSome)
  | none => false

/-- The 32 bits that up to four numbers stand for. -/
def join32? : List Nat -> Option Nat
  | [] => none
  | numbers@(_ :: others) =>
      if 3 < others.length then none
      else
        let leading := numbers.dropLast
        let last := numbers.getLastD 0
        if leading.any (255 < ·) || 1 <<< (8 * (4 - leading.length)) ≤ last then none
        else
          some ((leading.zipIdx.map fun (number, index) =>
            number <<< (8 * (3 - index))).foldl (· + ·) last)

/-- The 32 bits of a host that is written as a number. -/
def ipv4? (host : List Char) : Option Nat :=
  (parts host).mapM part? |>.bind join32?

/-- The usual form of a host of 32 bits. -/
def renderIpv4 (value : Nat) : String :=
  String.intercalate "." <|
    [value >>> 24 % 256, value >>> 16 % 256, value >>> 8 % 256, value % 256].map
      toString

/-! ## Eight pieces -/

/-- The pieces of a host read so far. -/
structure Pieces where
  /-- The pieces, the latest first. -/
  reversed : List Nat
  /-- How many pieces stand before the run of zeros that was left out. -/
  gap : Option Nat
  deriving DecidableEq, Repr

namespace Pieces

/-- The same pieces and one more. -/
def push (pieces : Pieces) (piece : Nat) : Pieces :=
  { pieces with reversed := piece :: pieces.reversed }

/-- The same pieces and a run of zeros, of which one is there in any case. -/
def leaveOut (pieces : Pieces) : Pieces :=
  ⟨0 :: pieces.reversed, some (pieces.reversed.length + 1)⟩

/-- All eight pieces. -/
def finish (pieces : Pieces) : Option (List Nat) :=
  let known := pieces.reversed.reverse
  match pieces.gap with
  | some before =>
      some (known.take before ++ List.replicate (8 - known.length) 0 ++ known.drop before)
  | none => if known.length == 8 then some known else none

end Pieces

/-- Read up to `count` hexadecimal digits behind a number already read. -/
def readPiece : Nat -> Nat -> List Char -> Nat × List Char
  | count + 1, value, character :: rest =>
      match digitIn? 16 character with
      | some digit => readPiece count (value * 16 + digit) rest
      | none => (value, character :: rest)
  | _, value, input => (value, input)

/-- Read a decimal number up to 255 without superfluous zeros. -/
def readOctet (value : Option Nat) : List Char -> Option (Nat × List Char)
  | [] => value.map (·, [])
  | character :: rest =>
      match digitIn? 10 character, value with
      | some digit, none => readOctet (some digit) rest
      | some _, some 0 => none
      | some digit, some known =>
          if 255 < known * 10 + digit then none else readOctet (some (known * 10 + digit)) rest
      | none, _ => value.map (·, character :: rest)

/-- What follows a dot. -/
def behindDot? : List Char -> Option (List Char)
  | '.' :: rest => some rest
  | _ => none

/-- Read four decimal numbers with dots between them, which are two pieces. -/
def readFour (input : List Char) : Option (Nat × Nat) := do
  let (first, rest) ← readOctet none input
  let (second, rest) ← readOctet none (← behindDot? rest)
  let (third, rest) ← readOctet none (← behindDot? rest)
  let (fourth, rest) ← readOctet none (← behindDot? rest)
  if rest.isEmpty then some (first * 256 + second, third * 256 + fourth) else none

/-- Read pieces, of which `left` may still come. -/
def readPieces : Nat -> Pieces -> List Char -> Option (List Nat)
  | _, pieces, [] => pieces.finish
  | 0, _, _ :: _ => none
  | left + 1, pieces, ':' :: rest =>
      if pieces.gap.isSome then none else readPieces left pieces.leaveOut rest
  | left + 1, pieces, input =>
      let (value, rest) := readPiece 4 0 input
      match rest with
      | [] => (pieces.push value).finish
      | ':' :: next :: others => readPieces left (pieces.push value) (next :: others)
      | '.' :: _ =>
          if left == 0 || rest.length == input.length then none
          else
            (readFour input).bind fun (high, low) => ((pieces.push high).push low).finish
      | _ => none

/-- The eight pieces of a host, without the brackets around it. -/
def ipv6? : List Char -> Option (List Nat)
  | ':' :: ':' :: rest => readPieces 7 (Pieces.mk [] none).leaveOut rest
  | ':' :: _ => none
  | [] => none
  | [_] => none
  | input => readPieces 8 ⟨[], none⟩ input

/-- The longest run of zeros in a list, the first of equals: where it begins and
how long it is. -/
def longestRun (position : Nat) : List Nat -> Nat × Nat
  | [] => (position, 0)
  | piece :: rest =>
      let later := longestRun (position + 1) rest
      let here := ((piece :: rest).takeWhile (· == 0)).length
      if later.2 ≤ here then (position, here) else later

/-- Pieces in hexadecimal with colons between them. -/
def renderPieces (pieces : List Nat) : String :=
  String.intercalate ":" (pieces.map Text.hexadecimal)

/-- The usual form of a host of eight pieces. A run of two or more zeros is left
out. -/
def renderIpv6 (pieces : List Nat) : String :=
  let (start, length) := longestRun 0 pieces
  if length < 2 then "[" ++ renderPieces pieces ++ "]"
  else
    "[" ++ renderPieces (pieces.take start) ++ "::" ++
      renderPieces (pieces.drop (start + length)) ++ "]"

example : ipv4? "0x7f.1".toList = some 0x7f000001 := by decide +kernel

example : (ipv6? "1::2".toList).map renderIpv6 = some "[1::2]" := by decide +kernel

example : (ipv6? "::ffff:1.2.3.4".toList).map renderIpv6 = some "[::ffff:102:304]" := by
  decide +kernel

end Url
end BlockFeed
