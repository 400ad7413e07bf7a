import BlockFeed.Json.Numeral

/-!
# Reading JSON in one pass

A reader consumes octets from the front of the input and stops at the first
problem. The readers of this module are the parts from which both the reading
of arbitrary values and the reading of typed documents are made: layout, words,
strings, numbers, and the punctuation of arrays and objects.

The nesting of arrays and objects is limited. A reader that may enter one is
given the number of levels that are left, so that reading a value is a recursion
on that number, and reading the elements of one array a recursion on the length
of the input.
-/

namespace BlockFeed
namespace Json

/-- A reader consumes octets and yields a value, or stops at a problem. -/
abbrev Reader (α : Type) := StateT Bytes (Except Problem) α

/-- Levels of arrays and objects at which reading stops. -/
def nestingLimit : Nat := 128

/-- Whether an octet only lays out a JSON text. -/
def isLayout (octet : UInt8) : Bool :=
  octet == 0x20 || octet == 0x0a || octet == 0x09 || octet == 0x0d

namespace Reader

/-- Stop at a problem. -/
def fail (problem : Problem) : Reader α :=
  fun _ => .error problem

/-- Skip layout. -/
def skipLayout : Reader Unit :=
  fun input => .ok ((), input.dropWhile isLayout)

/-- The next octet, which stays in the input. -/
def peek : Reader (Option UInt8) :=
  fun input => .ok (input.head?, input)

/-- Drop the next octet. -/
def drop : Reader Unit :=
  fun input => .ok ((), input.tail)

/-- Read the rest of a word. -/
def word : Bytes -> Reader Unit
  | [], input => .ok ((), input)
  | _ :: _, [] => .error .endInValue
  | expected :: others, octet :: rest =>
      if octet == expected then word others rest else .error .expectedIdent

/-! ## Strings -/

/-- The value of an ASCII hexadecimal digit. -/
def hexDigit? (octet : UInt8) : Option Nat :=
  if 0x30 ≤ octet && octet ≤ 0x39 then some (octet.toNat - 0x30)
  else if 0x41 ≤ octet && octet ≤ 0x46 then some (octet.toNat - 0x41 + 10)
  else if 0x61 ≤ octet && octet ≤ 0x66 then some (octet.toNat - 0x61 + 10)
  else none

/-- Read four hexadecimal digits. -/
def hexUnit : Reader Nat
  | first :: second :: third :: fourth :: rest =>
      match hexDigit? first, hexDigit? second, hexDigit? third, hexDigit? fourth with
      | some a, some b, some c, some d => .ok (((a * 16 + b) * 16 + c) * 16 + d, rest)
      | _, _, _, _ => .error .invalidEscape
  | _ => .error .endInString

/-- Whether a UTF-16 unit is the first of a pair. -/
def isLeading (unit : Nat) : Bool := 0xd800 ≤ unit && unit ≤ 0xdbff

/-- Whether a UTF-16 unit is the second of a pair. -/
def isTrailing (unit : Nat) : Bool := 0xdc00 ≤ unit && unit ≤ 0xdfff

/-- Read the second unit of a pair, with the escape that introduces it. -/
def trailingUnit : Reader Nat
  | [] => .error .endInString
  | 0x5c :: [] => .error .endInString
  | 0x5c :: 0x75 :: rest => hexUnit rest
  | _ => .error .unexpectedEndOfEscape

/-- Read the character that a numeric escape stands for. Units of a pair are
accepted only together. -/
def escapedUnit : Reader Char := do
  let unit ← hexUnit
  if isTrailing unit then fail .loneSurrogate
  else if isLeading unit then
    let next ← trailingUnit
    if isTrailing next then
      return Char.ofNat ((unit - 0xd800) * 0x400 + (next - 0xdc00) + 0x10000)
    else fail .loneSurrogate
  else return Char.ofNat unit

/-- Read the character that an escape stands for, behind its backslash. -/
def escape : Reader Char
  | [] => .error .endInString
  | 0x22 :: rest => .ok ('"', rest)
  | 0x5c :: rest => .ok ('\\', rest)
  | 0x2f :: rest => .ok ('/', rest)
  | 0x62 :: rest => .ok ('\x08', rest)
  | 0x66 :: rest => .ok ('\x0c', rest)
  | 0x6e :: rest => .ok ('\n', rest)
  | 0x72 :: rest => .ok ('\r', rest)
  | 0x74 :: rest => .ok ('\t', rest)
  | 0x75 :: rest => escapedUnit rest
  | _ => .error .invalidEscape

/-- The octets of a string up to its closing quote, with escapes resolved. The
number bounds how many octets and escapes are read. -/
def stringOctets : Nat -> Reader Bytes
  | 0, _ => .error .endInString
  | _ + 1, [] => .error .endInString
  | steps + 1, octet :: rest =>
      if octet == 0x22 then .ok ([], rest)
      else if octet == 0x5c then do
        let (character, afterEscape) ← escape rest
        let (more, remaining) ← stringOctets steps afterEscape
        return (String.utf8EncodeChar character ++ more, remaining)
      else if octet < 0x20 then .error .controlCharacter
      else do
        let (more, remaining) ← stringOctets steps rest
        return (octet :: more, remaining)

/-- Read a string behind its opening quote. -/
def stringBody : Reader String := fun input => do
  let (octets, rest) ← stringOctets (input.length + 1) input
  match octets.toString? with
  | some text => return (text, rest)
  | none => throw .invalidCodePoint

/-! ## Numbers -/

/-- Whether a number can begin with an octet. -/
def beginsNumber (octet : UInt8) : Bool :=
  octet == 0x2d || (digit? octet).isSome

/-- Read a number. -/
def number : Reader Number := fun input => do
  let (numeral, rest) ← Numeral.read input
  let value ← numeral.value
  return (value, rest)

/-! ## Punctuation -/

/-- Go to the next element of an array, if there is one; the closing bracket
stays in the input. -/
def nextElement (first : Bool) : Reader Bool := do
  skipLayout
  match ← peek with
  | none => fail .endInList
  | some 0x5d => return false
  | some octet =>
      if first then return true
      else if octet == 0x2c then
        drop
        skipLayout
        match ← peek with
        | none => fail .endInValue
        | some 0x5d => fail .trailingComma
        | some _ => return true
      else fail .expectedListCommaOrEnd

/-- Close an array of which enough elements have been read. -/
def closeList : Reader Unit := do
  skipLayout
  match ← peek with
  | none => fail .endInList
  | some 0x5d => drop
  | some 0x2c =>
      drop
      skipLayout
      match ← peek with
      | some 0x5d => fail .trailingComma
      | _ => fail .trailingCharacters
  | some _ => fail .trailingCharacters

/-- Read the key behind its opening quote. -/
def key : Reader (Option String) := do
  drop
  return some (← stringBody)

/-- Read the next key of an object, if there is one; the closing brace is
consumed. -/
def nextKey (first : Bool) : Reader (Option String) := do
  skipLayout
  match ← peek with
  | none => fail .endInObject
  | some 0x7d =>
      drop
      return none
  | some octet =>
      if first then
        if octet == 0x22 then key else fail .keyNotString
      else if octet == 0x2c then
        drop
        skipLayout
        match ← peek with
        | none => fail .endInValue
        | some 0x22 => key
        | some 0x7d => fail .trailingComma
        | some _ => fail .keyNotString
      else fail .expectedObjectCommaOrEnd

/-- Read the colon between a key and its value. -/
def colon : Reader Unit := do
  skipLayout
  match ← peek with
  | none => fail .endInObject
  | some 0x3a => drop
  | some _ => fail .expectedColon

/-- Enter an array or object with `levels` levels left. -/
def enter (levels : Nat) : Reader Unit := do
  drop
  if levels ≤ 1 then fail .recursionLimit

/-- Read the next element of an array, if there is one; the closing bracket
stays in the input. -/
def element? (first : Bool) (element : Reader α) : Reader (Option α) := do
  if ← nextElement first then return some (← element)
  else return none

/-- Read all elements of an array behind its opening bracket. The number bounds
how many elements are read. -/
def elements (element : Reader α) : Nat -> Bool -> Reader (List α)
  | 0, _ => fail .endInList
  | steps + 1, first => do
      if ← nextElement first then
        let value ← element
        let others ← elements element steps false
        return value :: others
      else
        closeList
        return []

/-- Read all members of an object behind its opening brace. A member's reader
starts before the colon, so that it can refuse the key first. The number bounds
how many members are read. -/
def members (member : σ -> String -> Reader σ) : Nat -> Bool -> σ -> Reader σ
  | 0, _, _ => fail .endInObject
  | steps + 1, first, state => do
      match ← nextKey first with
      | none => return state
      | some key => members member steps false (← member state key)

/-- A bound on how many elements or members the input can hold. -/
def bound : Reader Nat :=
  fun input => .ok (input.length + 1, input)

/-! ## Values -/

/-- Read a value with `levels` levels left. Members of objects are sorted, and a
repeated key keeps its last value. -/
def value : Nat -> Reader Value
  | 0 => fail .recursionLimit
  | levels + 1 => do
      skipLayout
      match ← peek with
      | none => fail .endInValue
      | some 0x6e =>
          drop
          word [0x75, 0x6c, 0x6c]
          return .null
      | some 0x74 =>
          drop
          word [0x72, 0x75, 0x65]
          return .bool true
      | some 0x66 =>
          drop
          word [0x61, 0x6c, 0x73, 0x65]
          return .bool false
      | some 0x22 =>
          drop
          return .string (← stringBody)
      | some 0x5b =>
          enter (levels + 1)
          return .array (← elements (value levels) (← bound) true)
      | some 0x7b =>
          enter (levels + 1)
          let sorted ← members (fun (known : Members) key => do
            colon
            return Members.insert key (← value levels) known) (← bound) true []
          return .object sorted
      | some octet =>
          if beginsNumber octet then return .number (← number)
          else fail .expectedValue

/-! ## Typed places -/

/-- Report the value that stands here, which is not of the expected type. A
problem inside that value comes first, except in an array or object, which is
not entered. -/
def mismatch (expected : String) : Reader α := do
  match ← peek with
  | some 0x5b => fail (.invalidType .sequence expected)
  | some 0x7b => fail (.invalidType .map expected)
  | _ => fail (.invalidType (← value 1).found expected)

/-- Read a number of 64 bits without sign. -/
def natural : Reader UInt64 := do
  skipLayout
  match ← peek with
  | none => fail .endInValue
  | some octet =>
      if beginsNumber octet then
        match ← number with
        | .natural value => return value
        | .negative magnitude =>
            fail (.invalidValue (.number (.negative magnitude)) "u64")
        | .float value => fail (.invalidType (.number (.float value)) "u64")
      else mismatch "u64"

/-- Read a number of 64 bits without sign, or nothing. -/
def natural? : Reader (Option UInt64) := do
  skipLayout
  match ← peek with
  | some 0x6e =>
      drop
      word [0x75, 0x6c, 0x6c]
      return none
  | _ => return some (← natural)

/-- Read a string. -/
def string (expected : String) : Reader String := do
  skipLayout
  match ← peek with
  | none => fail .endInValue
  | some 0x22 =>
      drop
      stringBody
  | some _ => mismatch expected

/-- Read a truth value. -/
def bool : Reader Bool := do
  skipLayout
  match ← peek with
  | none => fail .endInValue
  | some 0x74 =>
      drop
      word [0x72, 0x75, 0x65]
      return true
  | some 0x66 =>
      drop
      word [0x61, 0x6c, 0x73, 0x65]
      return false
  | some _ => mismatch "a boolean"

/-- Read an array of values with `levels` levels left. -/
def array (levels : Nat) : Reader (List Value) := do
  skipLayout
  match ← peek with
  | none => fail .endInValue
  | some 0x5b =>
      enter levels
      elements (value (levels - 1)) (← bound) true
  | some _ => mismatch "a sequence"

/-- Read an object with `levels` levels left, member by member. -/
def object
    (levels : Nat)
    (expected : String)
    (member : σ -> String -> Reader σ)
    (initial : σ) : Reader σ := do
  skipLayout
  match ← peek with
  | none => fail .endInValue
  | some 0x7b =>
      enter levels
      members member (← bound) true initial
  | some _ => mismatch expected

end Reader

/-- Read a whole document; only layout may follow its value. -/
def document (reader : Reader α) (input : Bytes) : Except Problem α := do
  let (value, rest) ← reader input
  match rest.dropWhile isLayout with
  | [] => return value
  | _ :: _ => throw .trailingCharacters

/-- Read a document that holds any value. -/
def Value.read (input : Bytes) : Except Problem Value :=
  document (Reader.value nestingLimit) input

end Json
end BlockFeed
