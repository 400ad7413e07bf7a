import BlockFeed.Fault
import BlockFeed.Text.Blank

/-!
# Finalized heights

A portal tells its finalized height as a decimal number. A height that was
fetched is used again until it has become too old.
-/

namespace BlockFeed
namespace Height

/-- The value of an ASCII digit. -/
def digit? (character : Char) : Option Nat :=
  if '0' ≤ character && character ≤ '9' then some (character.toNat - '0'.toNat)
  else none

/-- The number that decimal digits stand for behind a number already read. -/
def natFrom? (value : Nat) : List Char -> Option Nat
  | [] => some value
  | character :: rest =>
      match digit? character with
      | some digit => natFrom? (value * 10 + digit) rest
      | none => none

/-- The number that one or more decimal digits stand for. -/
def nat? : List Char -> Option Nat
  | [] => none
  | digits => natFrom? 0 digits

/-- The number that digits behind an optional plus sign stand for. -/
def signed? : List Char -> Option Nat
  | '+' :: digits => nat? digits
  | digits => nat? digits

/-- The number of 64 bits that a text stands for. -/
def number? (characters : List Char) : Option UInt64 :=
  match signed? characters with
  | some value => if value < UInt64.size then some value.toUInt64 else none
  | none => none

/-- Read a height, which white space may surround. -/
def parse (body : String) : Except Fault UInt64 :=
  match number? (Text.trimWhiteSpace body.toList) with
  | some height => .ok height
  | none => .error (.invalidHeight body)

example : (parse " +007\n").toOption = some 7 := by decide +kernel

example : (parse "1.5").toOption = none := by decide +kernel

/-- The height that was fetched last. -/
structure Cache where
  /-- How long a height is used. -/
  interval : Duration
  /-- When the last fetch was complete, and what it brought. -/
  last : Option (Instant × UInt64)
  deriving DecidableEq, Repr

namespace Cache

/-- A cache before the first fetch. -/
def create (interval : Duration) : Cache := ⟨interval, none⟩

/-- The height that may still be used at an instant. -/
def fresh? (cache : Cache) (now : Instant) : Option UInt64 :=
  match cache.last with
  | some (fetched, height) =>
      if now - fetched < cache.interval then some height else none
  | none => none

/-- The cache after a fetch that is complete. -/
def store (cache : Cache) (now : Instant) (height : UInt64) : Cache :=
  { cache with last := some (now, height) }

@[simp] theorem fresh?_create (interval : Duration) (now : Instant) :
    (create interval).fresh? now = none := rfl

end Cache
end Height
end BlockFeed
