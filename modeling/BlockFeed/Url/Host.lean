import BlockFeed.Url.Folding
import BlockFeed.Url.Numeric
import BlockFeed.Url.Percent
import BlockFeed.Url.Punycode

/-!
# Hosts

The host of a web address is a name or a number. A name is written in ASCII: its
characters take their plain form, and a label that still holds others is encoded.
Hosts of other addresses are opaque.
-/

namespace BlockFeed
namespace Url

/-- Why a text is not an address. -/
inductive Problem
  | emptyHost
  | invalidName
  | invalidPort
  | invalidIpv4
  | invalidIpv6
  | invalidCharacter
  | relative
  deriving DecidableEq, Repr

/-- The sentence that reports a problem. -/
def Problem.message : Problem -> String
  | .emptyHost => "empty host"
  | .invalidName => "invalid international domain name"
  | .invalidPort => "invalid port number"
  | .invalidIpv4 => "invalid IPv4 address"
  | .invalidIpv6 => "invalid IPv6 address"
  | .invalidCharacter => "invalid domain character"
  | .relative => "relative URL without a base"

/-- A host. -/
inductive Host
  | name (characters : List Char)
  | ipv4 (value : Nat)
  | ipv6 (pieces : List Nat)
  deriving DecidableEq, Repr

namespace Host

/-- The written form of a host. -/
def render : Host -> String
  | .name characters => String.ofList characters
  | .ipv4 value => renderIpv4 value
  | .ipv6 pieces => renderIpv6 pieces

/-- Characters that no name may hold. -/
def isForbidden (character : Char) : Bool :=
  character.toNat ≤ 0x20 || character.toNat == 0x7f ||
    "%#/:<>?@[\\]^|".toList.contains character

/-- What an encoded label begins with. -/
def encodedMark : List Char := ['x', 'n', '-', '-']

/-- Whether a label that was encoded stands for a plain label beyond ASCII. -/
def isPlain (label : List Char) : Bool :=
  label.any (0x80 ≤ ·.toNat) &&
    label.all fun character => foldChar character == [character] && !isRefused character

/-- A label in ASCII. -/
def asciiLabel (label : List Char) : Except Problem (List Char) :=
  if label.any (0x80 ≤ ·.toNat) then
    if label.any isRefused then .error .invalidName
    else .ok (encodedMark ++ Punycode.encode label)
  else if label.take 4 == encodedMark then
    match Punycode.decode (label.drop 4) with
    | some plain => if isPlain plain then .ok label else .error .invalidName
    | none => .error .invalidName
  else .ok label

/-- A name in ASCII. -/
def asciiName (characters : List Char) : Except Problem (List Char) := do
  if characters.any isRefused then throw .invalidName
  let labels ← (piecesBetween '.' (characters.flatMap foldChar)).mapM asciiLabel
  let name := (List.intersperse ['.'] labels).flatten
  if name.any isForbidden then throw .invalidName
  return name

/-- Read a number between brackets. -/
def bracketed (characters : List Char) : Except Problem Host :=
  if characters.getLast? == some ']' then
    match ipv6? (characters.drop 1).dropLast with
    | some pieces => .ok (.ipv6 pieces)
    | none => .error .invalidIpv6
  else .error .invalidIpv6

/-- Read the host of a web address. -/
def parse (characters : List Char) : Except Problem Host := do
  if characters.head? == some '[' then bracketed characters
  else
    match (percentDecode (Bytes.ofChars characters)).toString? with
    | none => throw .invalidName
    | some decoded =>
        let name ← asciiName decoded.toList
        if name.isEmpty then throw .emptyHost
        else if endsInNumber name then
          match ipv4? name with
          | some value => return .ipv4 value
          | none => throw .invalidIpv4
        else return .name name

/-- Characters that no opaque host may hold. -/
def isForbiddenInOpaque (character : Char) : Bool :=
  "\x00\t\n\r #/:<>?@[\\]^|".toList.contains character

/-- Read the host of another address. -/
def parseOpaque (characters : List Char) : Except Problem Host :=
  if characters.head? == some '[' then bracketed characters
  else if characters.any isForbiddenInOpaque then .error .invalidCharacter
  else .ok (.name (percentEncode .controls characters))

end Host
end Url
end BlockFeed
