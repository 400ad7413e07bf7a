import BlockFeed.Feed.Log
import BlockFeed.Height
import BlockFeed.Ndjson
import BlockFeed.Options

/-!
# Feeds

A feed is a stream of blocks between a portal and a consumer. Its loop asks the
portal for the blocks behind a cursor, reads the answer line by line, puts the
blocks into a buffer and asks again; at the finalized head it pauses or ends.
The consumer takes batches out of the buffer, each with the tip that was known
when the latest body was asked for.

The loop and the consumer proceed by steps. A step of the loop does at most one
thing that can be seen from outside, and it begins by looking whether the feed
has been called off.
-/

namespace BlockFeed

/-- What does not change in the life of a feed. -/
structure Feed.Plan where
  portal : Portal
  query : Query
  /-- The address to which queries are posted. -/
  address : String
  /-- Pause at the finalized head. -/
  headPoll : Duration
  /-- Whether the feed ends at the finalized head. -/
  stopAtHead : Bool

/-- A body that is being read. -/
structure Feed.Reading where
  /-- The first block that was asked for. -/
  origin : UInt64
  /-- The first block that is still missing. -/
  cursor : UInt64
  splitter : Line.Splitter
  /-- How many parts have been handed out. -/
  index : Nat
  /-- The parts that are still to come. -/
  rest : List (Timed Item)
  /-- Whether the end of the body has been seen. -/
  exhausted : Bool

/-- Where the loop stands. -/
inductive Feed.Stage
  /-- At the beginning of a round. -/
  | turning
  /-- The height was asked for. -/
  | asking (since : Instant) (answer : Timed (Answer String))
  /-- The tip is known and the query is about to be posted. -/
  | resolved (tip : BlockRef)
  /-- The query was posted. -/
  | posting (tip : BlockRef) (since : Instant) (answer : Timed (Answer Reply))
  /-- The next part of the body was asked for. -/
  | reading (since : Instant) (reading : Feed.Reading)
  /-- Held back by the buffer until another release. -/
  | held (ticket : Nat) (reading : Feed.Reading)
  /-- Waiting at the finalized head. -/
  | pausing (target : Instant)
  | finished

/-- Where the consumer stands. -/
inductive Feed.Consumer
  | idle
  /-- Asking for the next batch: how long it is ready to wait, and when it will
  look again by itself. -/
  | waiting (deadline wake : Option Instant)
  /-- It was told that the feed has failed. -/
  | warned
  /-- It was told that the feed has ended. -/
  | over
  /-- It has gone. -/
  | gone
  deriving DecidableEq

/-- A stream of blocks between a portal and a consumer. -/
structure Feed where
  plan : Feed.Plan
  /-- The first block of the next query. -/
  cursor : UInt64
  cache : Height.Cache
  /-- How often the height was asked for. -/
  asked : Nat
  /-- How many queries were posted. -/
  posted : Nat
  stage : Feed.Stage
  buffer : Buffer Block
  /-- The tip that was known when the latest body was asked for. -/
  tip : Option BlockRef
  consumer : Feed.Consumer
  log : List Feed.Entry

namespace Feed

/-- A feed at its beginning. -/
def create (plan : Plan) (buffer : Buffer.Config) (tipRefresh : Duration) : Feed where
  plan := plan
  cursor := plan.query.firstBlock
  cache := .create tipRefresh
  asked := 0
  posted := 0
  stage := .turning
  buffer := .create buffer
  tip := none
  consumer := .idle
  log := []

/-- The feed after something happened. -/
def record (feed : Feed) (now : Instant) (event : Event) : Feed :=
  { feed with log := feed.log ++ [⟨now, event⟩] }

/-- The fault of a transport that broke down. -/
def breakdown : Fault := .other "ingestion task panicked"

/-! ## The ends of the loop -/

/-- End the loop without a fault. -/
def finish (feed : Feed) : Feed :=
  { feed with buffer := feed.buffer.close, stage := .finished }

/-- End the loop by a fault. -/
def fail (feed : Feed) (fault : Fault) : Feed :=
  { feed with buffer := feed.buffer.fail fault, stage := .finished }

/-- Give a body back before its end. -/
def abandon (feed : Feed) (now : Instant) : Feed :=
  feed.record now (.released false)

/-- Whether a body is in hand. -/
def Stage.holdsBody : Stage -> Bool
  | .reading _ _ => true
  | .held _ body => !body.exhausted
  | _ => false

/-- End the loop because the feed was called off. -/
def callOff (feed : Feed) (now : Instant) : Feed :=
  if feed.stage.holdsBody then (feed.abandon now).finish else feed.finish

/-! ## Reading bodies -/

/-- At the finalized head: end or pause. -/
def atHead (feed : Feed) (now : Instant) : Feed :=
  if feed.plan.stopAtHead then feed.finish
  else { feed with stage := .pausing (now + feed.plan.headPoll) }

/-- A body was read to its end: let the consumer have what is pending, and go
on behind the last block. -/
def endReply (feed : Feed) (now : Instant) (origin cursor : UInt64) : Feed :=
  let hinted := { feed with buffer := feed.buffer.hint }
  if cursor == origin then hinted.atHead now
  else { hinted with cursor := cursor, stage := .turning }

/-- Go on with a body behind a part of it. -/
def continueReading (feed : Feed) (now : Instant) (reading : Reading) : Feed :=
  if reading.exhausted then feed.endReply now reading.origin reading.cursor
  else { feed with stage := .reading now reading }

/-- Put the blocks of a group of lines into the buffer, or end at the first line
that is not a block. -/
def putLines
    (feed : Feed)
    (now : Instant)
    (reading : Reading)
    (lines : List Bytes) : Feed :=
  match Ndjson.portion lines with
  | .error fault =>
      (if reading.exhausted then feed else feed.abandon now).fail fault
  | .ok portion =>
      let advanced := { reading with cursor := portion.cursorBehind reading.cursor }
      if portion.blocks.isEmpty then feed.continueReading now advanced
      else
        let (put, buffer) := feed.buffer.put now portion.blocks portion.bytes
        let filled := { feed with buffer := buffer }
        match put with
        | .settled => filled.continueReading now advanced
        | .held ticket => { filled with stage := .held ticket advanced }

/-- The end of a body has been reached: what it left unfinished is its last
line. -/
def exhaust (feed : Feed) (now : Instant) (reading : Reading) : Feed :=
  let released := feed.record now (.released true)
  let (tail, splitter) := reading.splitter.finish
  released.putLines now { reading with splitter := splitter, exhausted := true } tail.toList

/-- A part of a body has arrived. -/
def receive
    (feed : Feed)
    (now : Instant)
    (reading : Reading)
    (item : Item)
    (rest : List (Timed Item)) : Feed :=
  let received := feed.record now (.received reading.index item)
  match item with
  | .data chunk =>
      let (lines, splitter) := reading.splitter.push chunk
      received.putLines now
        { reading with splitter := splitter, index := reading.index + 1, rest := rest } lines
  | .failed fault => (received.abandon now).fail fault
  | .crash => (feed.abandon now).fail breakdown
  | .silence => feed

/-! ## Requests -/

/-- Ask for the height. -/
def askHeight (feed : Feed) (now : Instant) (aborted : Bool) : Feed :=
  { feed.record now (.asked aborted) with
    asked := feed.asked + 1
    stage := .asking now (feed.plan.portal.height feed.asked) }

/-- An answer about the height has arrived. -/
def hearHeight (feed : Feed) (now : Instant) : Answer String -> Feed
  | .ok body =>
      match Height.parse body with
      | .ok height =>
          { feed with
            cache := feed.cache.store now height
            stage := .resolved ⟨height, ""⟩ }
      | .error fault => feed.fail fault
  | .failed fault => feed.fail fault
  | .crash => feed.fail breakdown

/-- Post the query from the cursor on. -/
def post (feed : Feed) (now : Instant) (aborted : Bool) (tip : BlockRef) : Feed :=
  let query := feed.plan.query.startingAt feed.cursor
  { feed.record now (.posted aborted query) with
    posted := feed.posted + 1
    stage := .posting tip now (feed.plan.portal.reply feed.posted query) }

/-- Give the body of a reply back unread, if it has one. -/
def decline (feed : Feed) (now : Instant) (reply : Reply) : Feed :=
  if reply.body.isSome then feed.abandon now else feed

/-- A reply has arrived. -/
def hearReply (feed : Feed) (now : Instant) (tip : BlockRef) : Answer Reply -> Feed
  | .ok reply =>
      if reply.status == 200 then
        let informed := { feed with tip := some tip }
        match reply.body with
        | some parts =>
            { informed with
              stage := .reading now ⟨feed.cursor, feed.cursor, .empty, 0, parts, false⟩ }
        | none => informed.endReply now feed.cursor feed.cursor
      else if reply.status == 204 then (feed.decline now reply).atHead now
      else
        (feed.decline now reply).fail
          (.unexpectedStatus reply.status.toNat feed.plan.address)
  | .failed fault => feed.fail fault
  | .crash => feed.fail breakdown

/-! ## Steps of the loop -/

/-- Begin a round: end behind the last block, and otherwise find the tip. -/
def turn (feed : Feed) (now : Instant) (cancelled : Bool) : Feed :=
  if !feed.plan.query.reaches feed.cursor then feed.finish
  else if cancelled then feed.callOff now
  else
    match feed.cache.fresh? now with
    | some height => { feed with stage := .resolved ⟨height, ""⟩ }
    | none => feed.askHeight now cancelled

/-- Go on with a body once its next part, or its end, has arrived. -/
def read? (feed : Feed) (now since : Instant) (reading : Reading) : Option Feed :=
  match reading.rest with
  | [] => some (feed.exhaust now reading)
  | ⟨_, .silence⟩ :: _ => none
  | ⟨delay, item⟩ :: rest =>
      if since + delay ≤ now then some (feed.receive now reading item rest) else none

/-- One step of the loop, unless it has to wait or has ended. `cancelled` tells
whether the feed has been called off. -/
def proceed? (feed : Feed) (now : Instant) (cancelled : Bool) : Option Feed :=
  match feed.stage with
  | .finished => none
  | .turning => some (feed.turn now cancelled)
  | stage =>
      if cancelled then some (feed.callOff now)
      else
        match stage with
        | .asking since answer =>
            if since + answer.delay ≤ now then some (feed.hearHeight now answer.content)
            else none
        | .resolved tip => some (feed.post now cancelled tip)
        | .posting tip since answer =>
            if since + answer.delay ≤ now then some (feed.hearReply now tip answer.content)
            else none
        | .reading since reading => feed.read? now since reading
        | .held ticket reading =>
            if feed.buffer.admits ticket then some (feed.continueReading now reading)
            else none
        | .pausing target =>
            if target ≤ now then some { feed with stage := .turning } else none
        | _ => none

/-- The instant at which the loop can go on by itself, if it waits for one. -/
def alarm? (feed : Feed) : Option Instant :=
  match feed.stage with
  | .asking since answer => some (since + answer.delay)
  | .posting _ since answer => some (since + answer.delay)
  | .reading since reading =>
      match reading.rest with
      | [] => some since
      | ⟨_, .silence⟩ :: _ => none
      | ⟨delay, _⟩ :: _ => some (since + delay)
  | .pausing target => some target
  | _ => none

/-! ## The consumer -/

/-- The batch that a release makes. -/
def batchOf (feed : Feed) (blocks : List Block) : Batch :=
  ⟨blocks, feed.tip⟩

/-- The consumer gets something. -/
def deliver (feed : Feed) (now : Instant) (result : Yield) (consumer : Consumer) :
    Option Yield × Feed :=
  (some result, { feed.record now (.yielded result) with consumer := consumer })

/-- Look for a batch, for a consumer who waits at most until `deadline`. -/
def look (feed : Feed) (now : Instant) (deadline : Option Instant) : Option Yield × Feed :=
  let (result, buffer) := feed.buffer.take now deadline
  let taken := { feed with buffer := buffer }
  match result with
  | .released blocks => taken.deliver now (.batch (feed.batchOf blocks)) .idle
  | .ended => taken.deliver now .ended .over
  | .failed fault => taken.deliver now (.failed fault) .warned
  | .overflow => taken.deliver now .overflow .over
  | .waiting wake => (none, { taken with consumer := .waiting deadline wake })

/-- The consumer asks for the next batch, or goes on asking. Nothing comes of it
if it has to wait, or if it was told that the feed has ended. -/
def poll (feed : Feed) (now : Instant) : Option Yield × Feed :=
  match feed.consumer with
  | .idle =>
      match feed.buffer.patienceDeadline now with
      | .ok deadline => feed.look now deadline
      | .error _ => feed.deliver now .overflow .over
  | .waiting deadline _ => feed.look now deadline
  | .warned => feed.deliver now .ended .over
  | .over => (none, feed)
  | .gone => (none, feed)

/-- The instant at which a waiting consumer looks again by itself. -/
def wake? (feed : Feed) : Option Instant :=
  match feed.consumer with
  | .waiting _ wake => wake
  | _ => none

/-- The consumer goes. -/
def leave (feed : Feed) : Feed :=
  { feed with consumer := .gone }

end Feed
end BlockFeed
