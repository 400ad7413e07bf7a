import BlockFeed.Bytes

/-!
# White space

Two sets of white space matter. A line is blank when it holds nothing but the
five ASCII blanks that text files use for layout; the vertical tab is not one
of them. A height is surrounded by any characters with the Unicode property
`White_Space`, which holds the vertical tab as well.
-/

namespace BlockFeed
namespace Text

/-- The blanks that a line may hold and still be blank: tab, line feed, form
feed, carriage return and space. -/
def isBlankOctet (octet : UInt8) : Bool :=
  octet == 0x20 || octet == 0x09 || octet == 0x0a || octet == 0x0c || octet == 0x0d

/-- The characters with the Unicode property `White_Space`. -/
def isWhiteSpace (character : Char) : Bool :=
  let code := character.toNat
  (0x9 ≤ code && code ≤ 0xd) || code == 0x20 || code == 0x85 || code == 0xa0 ||
    code == 0x1680 || (0x2000 ≤ code && code ≤ 0x200a) || code == 0x2028 ||
    code == 0x2029 || code == 0x202f || code == 0x205f || code == 0x3000

/-- A list of characters without the white space at its two ends. -/
def trimWhiteSpace (characters : List Char) : List Char :=
  ((characters.dropWhile isWhiteSpace).reverse.dropWhile isWhiteSpace).reverse

end Text
end BlockFeed
