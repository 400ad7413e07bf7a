import BlockFeed.Bytes

/-!
# Reading UTF-8 that may be damaged

Octets are read one at a time by a machine that remembers at most one
unfinished character. It cuts any sequence of octets into pieces: characters,
and longest stretches that can begin no character or only an unfinished one.
A damaged text is shown with one replacement mark for each stretch.
-/

namespace BlockFeed
namespace Utf8

/-- A character whose first octets have been read. -/
structure Unfinished where
  /-- Octets still to come. -/
  missing : Nat
  /-- Code point bits read so far. -/
  bits : Nat
  /-- Least octet that may come next. -/
  low : UInt8
  /-- Greatest octet that may come next. -/
  high : UInt8
  /-- Octets read so far. -/
  seen : Nat
  deriving DecidableEq, Repr

/-- A stretch of the input that has been understood or given up. -/
inductive Piece
  /-- A complete character. -/
  | character (value : Char)
  /-- Octets that no further input can complete. -/
  | malformed (octets : Nat)
  /-- Octets of a character that the end of the input cuts off. -/
  | truncated (octets : Nat)
  deriving DecidableEq, Repr

/-- Read an octet where a character may begin. -/
def start (octet : UInt8) : List Piece × Option Unfinished :=
  let value := octet.toNat
  if octet < 0x80 then ([.character (Char.ofNat value)], none)
  else if octet < 0xc2 then ([.malformed 1], none)
  else if octet < 0xe0 then ([], some ⟨1, value - 0xc0, 0x80, 0xbf, 1⟩)
  else if octet == 0xe0 then ([], some ⟨2, 0, 0xa0, 0xbf, 1⟩)
  else if octet == 0xed then ([], some ⟨2, 0xd, 0x80, 0x9f, 1⟩)
  else if octet < 0xf0 then ([], some ⟨2, value - 0xe0, 0x80, 0xbf, 1⟩)
  else if octet == 0xf0 then ([], some ⟨3, 0, 0x90, 0xbf, 1⟩)
  else if octet < 0xf4 then ([], some ⟨3, value - 0xf0, 0x80, 0xbf, 1⟩)
  else if octet == 0xf4 then ([], some ⟨3, 4, 0x80, 0x8f, 1⟩)
  else ([.malformed 1], none)

/-- Read the next octet. An octet that cannot continue the unfinished
character ends that one and is read again as a beginning. -/
def step : Option Unfinished -> UInt8 -> List Piece × Option Unfinished
  | none, octet => start octet
  | some unfinished, octet =>
      if unfinished.low ≤ octet && octet ≤ unfinished.high then
        let bits := unfinished.bits * 64 + (octet.toNat - 0x80)
        if unfinished.missing ≤ 1 then ([.character (Char.ofNat bits)], none)
        else
          ([], some ⟨unfinished.missing - 1, bits, 0x80, 0xbf, unfinished.seen + 1⟩)
      else
        let (pieces, next) := start octet
        (.malformed unfinished.seen :: pieces, next)

/-- Cut the rest of the input into pieces. -/
def piecesFrom : Option Unfinished -> Bytes -> List Piece
  | none, [] => []
  | some unfinished, [] => [.truncated unfinished.seen]
  | state, octet :: rest =>
      let (pieces, next) := step state octet
      pieces ++ piecesFrom next rest

/-- Cut octets into characters and damaged stretches. -/
def pieces (bytes : Bytes) : List Piece :=
  piecesFrom none bytes

/-- How a piece is shown: a damaged stretch becomes one replacement mark. -/
def Piece.shown : Piece -> Char
  | .character value => value
  | .malformed _ => '\uFFFD'
  | .truncated _ => '\uFFFD'

/-- The text of possibly damaged octets, with one replacement mark for each
damaged stretch. -/
def lossy (bytes : Bytes) : String :=
  String.ofList ((pieces bytes).map Piece.shown)

/-- Where the first damaged stretch begins, and how long it is unless the end
of the input cuts it off. -/
structure Damage where
  offset : Nat
  octets : Option Nat
  deriving DecidableEq, Repr

/-- The first damaged stretch of a list of pieces that begins at `offset`. -/
def firstDamage (offset : Nat) : List Piece -> Option Damage
  | [] => none
  | .character value :: rest => firstDamage (offset + value.utf8Size) rest
  | .malformed octets :: _ => some ⟨offset, some octets⟩
  | .truncated _ :: _ => some ⟨offset, none⟩

/-- The first damaged stretch of the input, if there is one. -/
def damage? (bytes : Bytes) : Option Damage :=
  firstDamage 0 (pieces bytes)

/-- The sentence that reports a damaged stretch. -/
def Damage.message (damage : Damage) : String :=
  match damage.octets with
  | some octets =>
      "invalid utf-8 sequence of " ++ toString octets ++
        " bytes from index " ++ toString damage.offset
  | none =>
      "incomplete utf-8 byte sequence from index " ++ toString damage.offset

example : lossy [0x61, 0xe2, 0x82, 0x62] = "a\uFFFDb" := by decide +kernel

example : damage? [0x61, 0x62, 0xc3] = some ⟨2, none⟩ := by decide +kernel

end Utf8
end BlockFeed
