import BlockFeed.Fleet

/-!
# One order of events

The actions of a fleet may come in any order. The order chosen here runs every
loop until it has to wait before a consumer is asked again, and lets time pass
only when nothing else can happen, to the next whole millisecond at which
something can.
-/

namespace BlockFeed
namespace Fleet

/-- Let the loop of a feed take steps until it has to wait, but at most
`steps`. -/
def settleMember (index : Nat) : Nat -> Fleet -> Fleet
  | 0, fleet => fleet
  | steps + 1, fleet =>
      match fleet.proceed? index with
      | some next => settleMember index steps next
      | none => fleet

/-- Let every loop take steps until it has to wait, but at most `steps`. -/
def settle (steps : Nat) (fleet : Fleet) : Fleet :=
  (List.range fleet.members.length).foldl
    (fun settled index => settleMember index steps settled) fleet

/-- The next whole millisecond at which a loop can go on. -/
def alarm? (fleet : Fleet) : Option Instant :=
  (fleet.members.foldl (fun alarm member => Instant.earliest alarm member.feed.alarm?)
    none).map Instant.wholeMilli

/-- The next whole millisecond at which the consumer of a feed looks again. -/
def wake? (fleet : Fleet) (index : Nat) : Option Instant :=
  (fleet.members[index]?.bind fun member => member.feed.wake?).map Instant.wholeMilli

/-- The fleet at a later instant. -/
def atInstant (fleet : Fleet) (instant : Instant) : Fleet :=
  fleet.act (.pass (instant - fleet.now))

/-- Let time pass until an instant, with at most `wakes` interruptions by loops
that go on. -/
def sleepWithin (steps : Nat) : Nat -> Instant -> Fleet -> Fleet
  | 0, target, fleet => fleet.atInstant target
  | wakes + 1, target, fleet =>
      match fleet.alarm? with
      | some alarm =>
          if alarm ≤ target then
            sleepWithin steps wakes target (settle steps (fleet.atInstant alarm))
          else fleet.atInstant target
      | none => fleet.atInstant target

/-- Let the loops take steps and then a duration pass. Loops go on at whole
milliseconds only. -/
def sleep (steps : Nat) (duration : Duration) (fleet : Fleet) : Fleet :=
  sleepWithin steps (duration.millis + 1) (fleet.now + duration) (settle steps fleet)

/-- Let the loops take steps and the consumer of a feed look for a batch, again
and again, until there is one or the clock has reached an instant. -/
def awaitWithin (steps index : Nat) :
    Nat -> Instant -> Fleet -> Option Feed.Yield × Fleet
  | wakes, target, fleet =>
      match (settle steps fleet).poll index with
      | (some result, next) => (some result, next)
      | (none, next) =>
          match wakes, Instant.earliest next.alarm? (next.wake? index) with
          | remaining + 1, some wake =>
              if wake ≤ target then
                awaitWithin steps index remaining target (next.atInstant wake)
              else (none, next.atInstant target)
          | _, _ => (none, next.atInstant target)

/-- The consumer of a feed asks for the next batch and gives up after a while.
What it has begun goes on when it asks again. -/
def pull (steps : Nat) (index : Nat) (limit : Duration) (fleet : Fleet) :
    Option Feed.Yield × Fleet :=
  match fleet.poll index with
  | (some result, next) => (some result, next)
  | (none, next) => awaitWithin steps index (limit.millis + 1) (fleet.now + limit) next

end Fleet
end BlockFeed
