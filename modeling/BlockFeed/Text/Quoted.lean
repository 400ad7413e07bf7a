import BlockFeed.Text.Unprintable

/-!
# Quoted text

Messages show a text between double quotes, so that its ends and its invisible
characters can be seen. Quotes and backslashes are written with a backslash,
the usual control characters by their letter, and any other character that
cannot be seen by its code point in lower-case hexadecimal.
-/

namespace BlockFeed
namespace Text

/-- Lower-case hexadecimal digits of a number, without leading zeros. -/
def hexadecimal (value : Nat) : String :=
  String.ofList (Nat.toDigits 16 value)

/-- How one character is written between the quotes. -/
def quotedChar (character : Char) : String :=
  match character with
  | '"' => "\\\""
  | '\\' => "\\\\"
  | '\n' => "\\n"
  | '\r' => "\\r"
  | '\t' => "\\t"
  | '\x00' => "\\0"
  | _ =>
      if 0x20 ≤ character.toNat && character.toNat ≤ 0x7e then character.toString
      else if isUnprintable character then
        "\\u\x7b" ++ hexadecimal character.toNat ++ "\x7d"
      else character.toString

/-- A text between double quotes. -/
def quoted (text : String) : String :=
  "\"" ++ String.join (text.toList.map quotedChar) ++ "\""

example : quoted "a\"b\n" = "\"a\\\"b\\n\"" := by decide +kernel

end Text
end BlockFeed
