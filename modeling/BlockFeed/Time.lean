/-!
# Durations and instants

Durations and instants are whole numbers of nanoseconds; an instant counts from
the beginning of the clock. The clock itself ends: an instant of 2^63 seconds or
more cannot be represented, so adding a long duration to an instant may fail.
-/

namespace BlockFeed

/-- A duration in nanoseconds. -/
abbrev Duration := Nat

/-- An instant, in nanoseconds since the clock began. -/
abbrev Instant := Nat

namespace Duration

/-- Nanoseconds in one millisecond. -/
def nanosPerMilli : Nat := 1000000

/-- Nanoseconds in one second. -/
def nanosPerSecond : Nat := 1000000000

/-- A number of milliseconds. -/
def ofMillis (count : Nat) : Duration := count * nanosPerMilli

/-- A number of seconds. -/
def ofSeconds (count : Nat) : Duration := count * nanosPerSecond

/-- Whole milliseconds of a duration. -/
def millis (duration : Duration) : Nat := duration / nanosPerMilli

/-- Whole seconds of a duration. -/
def seconds (duration : Duration) : Nat := duration / nanosPerSecond

/-- Nanoseconds of a duration beyond its whole seconds. -/
def subsecond (duration : Duration) : Nat := duration % nanosPerSecond

/-- Decimals of `part / 10 ^ width` without trailing zeros, with the point. -/
def decimals (part width : Nat) : String :=
  let digits := Nat.toDigits 10 part
  let padded := List.replicate (width - digits.length) '0' ++ digits
  match (padded.reverse.dropWhile (· == '0')).reverse with
  | [] => ""
  | significant => "." ++ String.ofList significant

/-- A duration in the greatest unit of which it holds at least one, with as many
decimals as it needs. -/
def describe (duration : Duration) : String :=
  if nanosPerSecond ≤ duration then
    toString duration.seconds ++ decimals duration.subsecond 9 ++ "s"
  else if nanosPerMilli ≤ duration then
    toString duration.millis ++ decimals (duration % nanosPerMilli) 6 ++ "ms"
  else if 1000 ≤ duration then
    toString (duration / 1000) ++ decimals (duration % 1000) 3 ++ "µs"
  else toString duration ++ "ns"

example : describe (ofMillis 1500) = "1.5s" := by decide +kernel

example : describe 1000001 = "1.000001ms" := by decide +kernel

end Duration

namespace Instant

/-- The first instant that the clock cannot represent. -/
def horizon : Instant := Nat.pow 2 63 * Duration.nanosPerSecond

/-- A clock was asked for an instant that it cannot represent. -/
inductive Unrepresentable
  | beyondHorizon
  deriving DecidableEq, Repr

/-- The instant at which a timer that was started at `start` fires. A timer that
is off never fires. -/
def expiry (start : Instant) : Option Duration -> Except Unrepresentable (Option Instant)
  | none => .ok none
  | some duration =>
      if start + duration < horizon then .ok (some (start + duration))
      else .error .beyondHorizon

/-- The first whole millisecond that is not before an instant. -/
def wholeMilli (instant : Instant) : Instant :=
  (instant + (Duration.nanosPerMilli - 1)) / Duration.nanosPerMilli * Duration.nanosPerMilli

/-- The earlier of two instants, where nothing stands for never. -/
def earliest : Option Instant -> Option Instant -> Option Instant
  | some left, some right => some (min left right)
  | some left, none => some left
  | none, right => right

/-- Whether an instant, if there is one, has been reached. -/
def reached (now : Instant) : Option Instant -> Bool
  | some instant => instant ≤ now
  | none => false

@[simp] theorem expiry_none (start : Instant) : expiry start none = .ok none := rfl

@[simp] theorem earliest_none (right : Option Instant) :
    earliest none right = right := rfl

@[simp] theorem reached_none (now : Instant) : reached now none = false := rfl

@[simp] theorem reached_some (now instant : Instant) :
    reached now (some instant) = decide (instant ≤ now) := rfl

end Instant
end BlockFeed
