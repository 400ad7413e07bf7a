import BlockFeed.Bytes

/-!
# Percent encoding

A character that has a meaning of its own in some part of an address is written
as its octets in hexadecimal, each behind a percent sign. Which characters these
are depends on the part. Characters beyond ASCII are always encoded.
-/

namespace BlockFeed
namespace Url

/-- A set of ASCII characters that have to be encoded. -/
structure PercentSet where
  holds : Char -> Bool

namespace PercentSet

/-- Control characters. -/
def controls : PercentSet :=
  ⟨fun character => character.toNat < 0x20 || character.toNat == 0x7f⟩

/-- A set with the characters of a text added. -/
def adding (set : PercentSet) (text : String) : PercentSet :=
  ⟨fun character => set.holds character || text.toList.contains character⟩

/-- Characters that are encoded in a path. -/
def path : PercentSet := controls.adding " \"<>`#?\x7b\x7d"

/-- Characters that are encoded in a name or password. -/
def userinfo : PercentSet := path.adding "/:;=@[\\]^|"

/-- Characters that are encoded in the query of a web address. -/
def query : PercentSet := controls.adding " \"#<>\x27"

end PercentSet

/-- An upper-case hexadecimal digit. -/
def upperHex (value : Nat) : Char :=
  if value < 10 then Char.ofNat ('0'.toNat + value) else Char.ofNat ('A'.toNat + value - 10)

/-- An octet behind a percent sign. -/
def encodeOctet (octet : UInt8) : List Char :=
  ['%', upperHex (octet.toNat / 16), upperHex (octet.toNat % 16)]

/-- A text with the characters of a set encoded. -/
def percentEncode (set : PercentSet) (characters : List Char) : List Char :=
  characters.flatMap fun character =>
    if 0x80 ≤ character.toNat || set.holds character then
      (String.utf8EncodeChar character).flatMap encodeOctet
    else [character]

/-- The value of a hexadecimal digit. -/
def hexValue? (octet : UInt8) : Option UInt8 :=
  if 0x30 ≤ octet && octet ≤ 0x39 then some (octet - 0x30)
  else if 0x41 ≤ octet && octet ≤ 0x46 then some (octet - 0x41 + 10)
  else if 0x61 ≤ octet && octet ≤ 0x66 then some (octet - 0x61 + 10)
  else none

/-- The octet that two hexadecimal digits stand for. -/
def hexOctet? (high low : UInt8) : Option UInt8 :=
  match hexValue? high, hexValue? low with
  | some a, some b => some (a * 16 + b)
  | _, _ => none

/-- Octets with every percent sign and the two hexadecimal digits behind it
resolved. -/
def percentDecode : Bytes -> Bytes
  | 0x25 :: high :: low :: rest =>
      match hexOctet? high low with
      | some octet => octet :: percentDecode rest
      | none => 0x25 :: percentDecode (high :: low :: rest)
  | octet :: rest => octet :: percentDecode rest
  | [] => []

example : percentEncode .path "a b".toList = "a%20b".toList := by decide +kernel

end Url
end BlockFeed
