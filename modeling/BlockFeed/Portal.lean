import BlockFeed.Body
import BlockFeed.Query

/-!
# Portals

A portal is known by its answers: what it answers to each request for its
height, to each query, and when. Delays count from the moment at which the
answer, or the next part of it, is asked for.
-/

namespace BlockFeed

/-- Something that arrives some time after it was asked for. -/
structure Timed (α : Type) where
  delay : Duration
  content : α
  deriving DecidableEq

/-- The next part of a body. -/
inductive Item
  | data (bytes : Bytes)
  | failed (fault : Fault)
  /-- The transport breaks down. -/
  | crash
  /-- Nothing arrives any more, not even an end. -/
  | silence
  deriving DecidableEq

/-- What comes of a request. -/
inductive Answer (α : Type)
  | ok (value : α)
  | failed (fault : Fault)
  /-- The transport breaks down. -/
  | crash
  deriving DecidableEq

/-- The answer to a query: its status and, if it has one, its body. -/
structure Reply where
  status : UInt16
  body : Option (List (Timed Item))
  deriving DecidableEq

/-- A portal, known by its answers. -/
structure Portal where
  /-- The answer to a request for the height, by the number of such requests
  before it. -/
  height : Nat -> Timed (Answer String)
  /-- The answer to a query, by the number of queries before it. -/
  reply : Nat -> Query -> Timed (Answer Reply)

namespace Reply

/-- The reply that there is nothing to send. -/
def noContent : Reply := ⟨204, none⟩

end Reply

namespace Portal

/-- The portal that gives listed answers in turn. The last height repeats, and
behind the last reply there is nothing to send. -/
def scripted
    (heights : List (Timed (Answer String)))
    (replies : List (Timed (Answer Reply))) : Portal where
  height count := heights.getD count (heights.getLast?.getD ⟨0, .ok "0"⟩)
  reply count _ := replies.getD count ⟨0, .ok .noContent⟩

end Portal
end BlockFeed
