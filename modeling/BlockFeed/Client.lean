import BlockFeed.Feed
import BlockFeed.Url

/-!
# Clients

A client knows the addresses of one dataset of a portal and the settings of its
requests. It asks for the finalized height, runs a query as a whole, or opens a
feed.
-/

namespace BlockFeed

/-- A client of one dataset. -/
structure Client where
  /-- The address of the finalized height. -/
  heightAddress : String
  /-- The address to which queries are posted. -/
  streamAddress : String
  settings : ClientSettings

namespace Client

/-- The path of the finalized height below that of the dataset. -/
def heightPath : String := "finalized-stream/height"

/-- The path of queries below that of the dataset. -/
def streamPath : String := "finalized-stream"

/-- The client of the dataset at an address. -/
def connect (address : String) (settings : ClientSettings) : Except Fault Client := do
  let url ← Url.ofText address
  return {
    heightAddress := (url.join heightPath).render
    streamAddress := (url.join streamPath).render
    settings := settings }

/-- What does not change in the life of a feed that the client opens. -/
def plan (client : Client) (portal : Portal) (query : Query) (options : StreamOptions) :
    Feed.Plan where
  portal := portal
  query := query
  address := client.streamAddress
  headPoll := options.headPoll
  stopAtHead := options.stopAtHead

/-- A feed that the client opens. -/
def feed (client : Client) (portal : Portal) (query : Query) (options : StreamOptions) :
    Feed :=
  .create (client.plan portal query options) options.buffer client.settings.tipRefresh

/-- The options of the requests of a feed, before it is bound to its own
token. -/
def requestOf (client : Client) (options : StreamOptions) : RequestOptions :=
  options.request.getD client.settings.request

/-! ## Calls -/

/-- The progress of the calls of a client, one after the other. -/
structure Dialogue where
  now : Instant
  /-- How often the height was asked for. -/
  asked : Nat
  /-- How many queries were posted. -/
  posted : Nat
  log : List Feed.Entry

namespace Dialogue

/-- Before the first call. -/
def start : Dialogue := ⟨0, 0, 0, []⟩

/-- The dialogue after something happened. -/
def record (dialogue : Dialogue) (event : Feed.Event) : Dialogue :=
  { dialogue with log := dialogue.log ++ [⟨dialogue.now, event⟩] }

/-- The dialogue some time later. -/
def later (dialogue : Dialogue) (delay : Duration) : Dialogue :=
  { dialogue with now := Instant.wholeMilli (dialogue.now + delay) }

end Dialogue

/-- The outcome of a call, or nothing if the call never returns. -/
abbrev Outcome (α : Type) := Option (Except Fault α)

/-- Ask for the finalized height. -/
def height (portal : Portal) (dialogue : Dialogue) : Outcome UInt64 × Dialogue :=
  let answer := portal.height dialogue.asked
  let heard :=
    { (dialogue.record (.asked false)).later answer.delay with asked := dialogue.asked + 1 }
  match answer.content with
  | .ok body => (some (Height.parse body), heard)
  | .failed fault => (some (.error fault), heard)
  | .crash => (none, heard)

/-- Read a body to its end, behind `index` parts of it. -/
def readBody (index : Nat) (dialogue : Dialogue) :
    List (Timed Item) -> Outcome Bytes × Dialogue
  | [] => (some (.ok []), dialogue.record (.released true))
  | part :: rest =>
      let arrived := dialogue.later part.delay
      match part.content with
      | .data chunk =>
          let (outcome, last) :=
            readBody (index + 1) (arrived.record (.received index part.content)) rest
          (outcome.map (·.map (chunk ++ ·)), last)
      | .failed fault =>
          (some (.error fault),
            (arrived.record (.received index part.content)).record (.released false))
      | .crash => (none, arrived.record (.released false))
      | .silence => (none, arrived)

/-- Read the body of a reply to its end. -/
def readReply (dialogue : Dialogue) (reply : Reply) : Outcome Bytes × Dialogue :=
  match reply.body with
  | some parts => readBody 0 dialogue parts
  | none => (some (.ok []), dialogue)

/-- The blocks that a reply with a whole body holds. -/
def blocksOf (client : Client) (status : UInt16) (body : Bytes) :
    Except Fault (List Block) :=
  if status == 200 then Ndjson.ofBody body
  else if status == 204 then .ok []
  else .error (.unexpectedStatus status.toNat client.streamAddress)

/-- Run a query as a whole. -/
def query (client : Client) (portal : Portal) (query : Query) (dialogue : Dialogue) :
    Outcome (List Block) × Dialogue :=
  let answer := portal.reply dialogue.posted query
  let heard :=
    { (dialogue.record (.posted false query)).later answer.delay with
      posted := dialogue.posted + 1 }
  match answer.content with
  | .ok reply =>
      let (body, last) := readReply heard reply
      (body.map fun result => result.bind (client.blocksOf reply.status), last)
  | .failed fault => (some (.error fault), heard)
  | .crash => (none, heard)

end Client
end BlockFeed
