import BlockFeed.Request

/-!
# How long to wait before another attempt

A policy answers, for the number of attempts that have failed, how long to wait
before the next one, or that there is none. The waits grow by a constant factor
up to a ceiling, with a fixed share added on top, unless a schedule lists them.
A request may replace the number of retries and the schedule for itself.
-/

namespace BlockFeed
namespace Retry

/-- How waits grow when no schedule lists them. -/
structure Backoff where
  /-- Number of retries after the first attempt. -/
  maxRetries : UInt32 := 5
  /-- Wait before the first retry. -/
  initial : Duration := Duration.ofMillis 100
  /-- Ceiling of the growing wait. -/
  greatest : Duration := Duration.ofSeconds 10
  /-- Factor from one wait to the next. -/
  multiplier : Float := 2.0
  /-- Twice the share of a wait that is added on top of it. -/
  jitter : Float := 0.1
  deriving DecidableEq

/-- A backoff and, if it is not empty, a schedule that replaces it. -/
structure Policy where
  backoff : Backoff := {}
  schedule : List Duration := []
  deriving DecidableEq

/-- A power by repeated squaring: `result * base ^ exponent`. The number of
squarings is bounded by `steps`. -/
def powerFrom (result base : Float) (exponent : Nat) : Nat -> Float
  | 0 => result
  | steps + 1 =>
      let result := if exponent % 2 == 1 then result * base else result
      if exponent / 2 == 0 then result
      else powerFrom result (base * base) (exponent / 2) steps

/-- A power with an integer exponent; a negative one yields the reciprocal. -/
def power (base : Float) (exponent : Int) : Float :=
  let result := powerFrom 1.0 base exponent.natAbs 32
  if exponent < 0 then 1.0 / result else result

/-- The number of an attempt less one, as a signed number of 32 bits. -/
def exponentOf (attempt : UInt32) : Int :=
  (attempt - 1).toInt32.toInt

/-- The lesser of two floats, or the other one if one is not a number. -/
def lesser (left right : Float) : Float :=
  if left.isNaN then right
  else if right.isNaN then left
  else if left < right then left
  else right

/-- The growing wait before retry `attempt`, in whole milliseconds. -/
def Backoff.delay (backoff : Backoff) (attempt : UInt32) : Duration :=
  let base :=
    Float.ofNat backoff.initial.millis * power backoff.multiplier (exponentOf attempt)
  let capped := lesser base (Float.ofNat backoff.greatest.millis)
  let total := capped + capped * backoff.jitter * 0.5
  Duration.ofMillis total.toUInt64.toNat

/-- The place in a schedule of the wait before retry `attempt`. The last entry stands for
every retry beyond its end. -/
def entryOf (schedule : List Duration) (attempt : UInt32) : Nat :=
  min (attempt.toNat - 1) (schedule.length - 1)

namespace Policy

/-- The wait before retry `attempt`, counted from one, if there is such a
retry. -/
def delay? (policy : Policy) (attempt : UInt32) : Option Duration :=
  if attempt == 0 || policy.backoff.maxRetries < attempt then none
  else
    match policy.schedule.getLast? with
    | some last => some (policy.schedule.getD (entryOf policy.schedule attempt) last)
    | none => some (policy.backoff.delay attempt)

/-- Whether any retry is left after `attempt` failures. -/
def mayRetry (policy : Policy) (attempt : UInt32) : Bool :=
  attempt ≤ policy.backoff.maxRetries

/-- The policy with the overrides of a request. -/
def forRequest (policy : Policy) (options : RequestOptions) : Policy :=
  { backoff :=
      { policy.backoff with
        maxRetries := options.retryAttempts.getD policy.backoff.maxRetries }
    schedule := options.retrySchedule.getD policy.schedule }

end Policy

example :
    ({ schedule := [10, 50] } : Policy).delay? 3 = some 50 := by decide +kernel

end Retry
end BlockFeed
