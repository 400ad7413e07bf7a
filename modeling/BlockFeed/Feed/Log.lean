import BlockFeed.Portal

/-!
# The log of a feed

A feed records what happens at its two ends: its requests to the portal and
what it receives, and what its consumer gets.
-/

namespace BlockFeed
namespace Feed

/-- What a consumer gets when it asks for the next batch. -/
inductive Yield
  | batch (batch : Batch)
  | failed (fault : Fault)
  | ended
  /-- The feed's timers lie beyond the end of the clock. -/
  | overflow
  deriving BEq

/-- What happened. -/
inductive Event
  /-- The height was asked for, with options that were aborted or not. -/
  | asked (aborted : Bool)
  /-- A query was posted, with options that were aborted or not. -/
  | posted (aborted : Bool) (query : Query)
  /-- A part of the body was handed out. -/
  | received (index : Nat) (item : Item)
  /-- The body was given back, at its end or before it. -/
  | released (exhausted : Bool)
  /-- The consumer got something. -/
  | yielded (result : Yield)

/-- What happened when. -/
structure Entry where
  instant : Instant
  event : Event

namespace Event

/-- Whether something happened between the feed and the portal. -/
def isOfPortal : Event -> Bool
  | .yielded _ => false
  | _ => true

end Event
end Feed
end BlockFeed
