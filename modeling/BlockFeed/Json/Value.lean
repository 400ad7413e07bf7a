import BlockFeed.Decimal.Layout
import BlockFeed.Text.Quoted

/-!
# JSON values and their compact text

A value is kept as it was read, except that the members of an object are sorted
by key and a repeated key keeps its last value. Integers that fit into 64 bits
stay integers; every other number is a floating-point number.

The compact text has no spaces. Members are written in the order in which an
object lists them.
-/

namespace BlockFeed
namespace Json

/-- A JSON number. -/
inductive Number
  /-- An integer from 0 to 2^64 - 1. -/
  | natural (value : UInt64)
  /-- The integer `-magnitude`, from -2^63 to -1. -/
  | negative (magnitude : UInt64)
  /-- Any other number. -/
  | float (value : Float)
  deriving DecidableEq

/-- A JSON value. -/
inductive Value
  | null
  | bool (value : Bool)
  | number (value : Number)
  | string (value : String)
  | array (elements : List Value)
  | object (members : List (String × Value))
  deriving BEq, Inhabited

/-- The members of an object in the order in which they are listed. -/
abbrev Members := List (String × Value)

namespace Members

/-- Put a member in its place among sorted members; an equal key loses its old
value. -/
def insert (key : String) (value : Value) : Members -> Members
  | [] => [(key, value)]
  | (other, old) :: rest =>
      if key < other then (key, value) :: (other, old) :: rest
      else if key == other then (key, value) :: rest
      else (other, old) :: insert key value rest

/-- Sorted members from members in the order in which they were read. -/
def sorted (members : Members) : Members :=
  members.foldl (fun result member => insert member.1 member.2 result) []

/-- The value of the first member with a key. -/
def get? (key : String) : Members -> Option Value
  | [] => none
  | (other, value) :: rest => if key == other then some value else get? key rest

/-- The keys in the order in which they are listed. -/
def keys (members : Members) : List String :=
  members.map (·.1)

@[simp] theorem insert_nil (key : String) (value : Value) :
    insert key value [] = [(key, value)] := rfl

@[simp] theorem sorted_nil : sorted [] = [] := rfl

@[simp] theorem get?_nil (key : String) : get? key [] = none := rfl

end Members

/-! ## Compact text -/

/-- The text of a number. -/
def Number.render : Number -> String
  | .natural value => toString value.toNat
  | .negative magnitude => "-" ++ toString magnitude.toNat
  | .float value => Decimal.Layout.json.render value

/-- How one character is written inside a JSON string. -/
def escapedChar (character : Char) : String :=
  match character with
  | '"' => "\\\""
  | '\\' => "\\\\"
  | '\x08' => "\\b"
  | '\x0c' => "\\f"
  | '\n' => "\\n"
  | '\r' => "\\r"
  | '\t' => "\\t"
  | _ =>
      let code := character.toNat
      if code < 0x20 then
        "\\u00" ++ Text.hexadecimal (code / 16) ++ Text.hexadecimal (code % 16)
      else character.toString

/-- The text of a JSON string. -/
def renderString (text : String) : String :=
  "\"" ++ String.join (text.toList.map escapedChar) ++ "\""

mutual

/-- The compact text of a value. -/
def Value.render : Value -> String
  | .null => "null"
  | .bool true => "true"
  | .bool false => "false"
  | .number value => value.render
  | .string value => renderString value
  | .array elements => "[" ++ renderElements elements ++ "]"
  | .object members => "\x7b" ++ renderMembers members ++ "\x7d"

/-- The elements of an array with commas between them. -/
def renderElements : List Value -> String
  | [] => ""
  | [element] => element.render
  | element :: next :: rest => element.render ++ "," ++ renderElements (next :: rest)

/-- The members of an object with commas between them. -/
def renderMembers : List (String × Value) -> String
  | [] => ""
  | [(key, value)] => renderString key ++ ":" ++ value.render
  | (key, value) :: next :: rest =>
      renderString key ++ ":" ++ value.render ++ "," ++ renderMembers (next :: rest)

end

example : (Value.object [("a", .array [.null, .bool true]), ("b", .string "\n")]).render =
    "\x7b\"a\":[null,true],\"b\":\"\\n\"\x7d" := by decide +kernel

end Json
end BlockFeed
