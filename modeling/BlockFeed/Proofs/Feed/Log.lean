import BlockFeed.Feed
import BlockFeed.Proofs.Ndjson

/-!
# What a feed was promised and what it has handed on

Both ends of a feed are read off its log and its portal. The queries that were
posted determine what the portal holds ready for the feed: the blocks in the
lines of the bodies of its replies. The consumer has been handed batches.
-/

namespace BlockFeed

/-! ## What a portal holds ready -/

namespace Reply

/-- The octets of a body that arrive before it ends, breaks off or falls
silent. -/
def octets : List (Timed Item) -> Bytes
  | ⟨_, .data chunk⟩ :: rest => chunk ++ octets rest
  | _ => []

/-- Whether a body arrives to its end. -/
def isWhole : List (Timed Item) -> Bool
  | [] => true
  | ⟨_, .data _⟩ :: rest => isWhole rest
  | _ => false

/-- The lines of a body that become complete. -/
def lines (parts : List (Timed Item)) : List Bytes :=
  Line.completed (octets parts) (isWhole parts)

@[simp] theorem octets_nil : octets [] = [] := rfl

@[simp] theorem octets_data (delay : Duration) (chunk : Bytes) (rest : List (Timed Item)) :
    octets (⟨delay, .data chunk⟩ :: rest) = chunk ++ octets rest := rfl

@[simp] theorem isWhole_nil : isWhole [] = true := rfl

@[simp] theorem isWhole_data (delay : Duration) (chunk : Bytes) (rest : List (Timed Item)) :
    isWhole (⟨delay, .data chunk⟩ :: rest) = isWhole rest := rfl

end Reply

/-- The blocks in the lines of the body of an answer, if its status is 200. -/
def Answer.blocks : Answer Reply -> List Block
  | .ok reply =>
      if reply.status == 200 then Ndjson.readable (Reply.lines (reply.body.getD [])) else []
  | _ => []

/-- The value of an answer, or the fault that a feed sees in it. -/
def Answer.outcome : Answer α -> Except Fault α
  | .ok value => .ok value
  | .failed fault => .error fault
  | .crash => .error Feed.breakdown

namespace Answer

theorem blocks_of_body
    {reply : Reply} {parts : List (Timed Item)}
    (status : (reply.status == 200) = true)
    (body : reply.body = some parts) :
    blocks (.ok reply) = Ndjson.readable (Reply.lines parts) := by
  simp [blocks, status, body]

theorem blocks_of_noBody
    {reply : Reply}
    (body : reply.body = none) :
    blocks (.ok reply) = [] := by
  have noLines : Ndjson.readable (Reply.lines []) = [] := rfl
  simp [blocks, body, noLines]

theorem blocks_of_status
    {reply : Reply}
    (status : (reply.status == 200) = false) :
    blocks (.ok reply) = [] := by
  simp [blocks, status]

theorem eq_failed_of_outcome
    {answer : Answer α} {fault : Fault}
    (outcome : answer.outcome = .error fault)
    (cancelled : fault.isCancelled = true) :
    answer = .failed .cancelled := by
  rw [Fault.isCancelled_iff] at cancelled
  cases answer with
  | ok value => simp [Answer.outcome] at outcome
  | failed reported => simp_all [Answer.outcome]
  | crash => simp [Answer.outcome, Feed.breakdown, cancelled] at outcome

end Answer

namespace Feed

/-! ## What is in a log -/

namespace Event

/-- The query that was posted. -/
def post? : Event -> Option Query
  | .posted _ query => some query
  | _ => none

/-- What the consumer got. -/
def yield? : Event -> Option Yield
  | .yielded result => some result
  | _ => none

/-- Whether a body broke off because it was called off. -/
def isCancellation : Event -> Bool
  | .received _ (.failed fault) => fault.isCancelled
  | _ => false

end Event

namespace Yield

/-- The batch that the consumer got. -/
def batch? : Yield -> Option Batch
  | .batch value => some value
  | _ => none

/-- Whether the consumer was told that the feed has failed. -/
def isFailure : Yield -> Bool
  | .failed _ => true
  | _ => false

/-- Whether the consumer was told that the feed has ended. -/
def isEnd : Yield -> Bool
  | .ended => true
  | _ => false

end Yield

/-- The queries that were posted, the first one first. -/
def posts (feed : Feed) : List Query :=
  feed.log.filterMap (·.event.post?)

/-- What the portal answers to the queries that were posted. -/
def answers (feed : Feed) : List (Answer Reply) :=
  feed.posts.zipIdx.map fun (query, count) => (feed.plan.portal.reply count query).content

/-- The blocks that the portal holds ready for the feed, in the order of their
lines. -/
def produced (feed : Feed) : List Block :=
  feed.answers.flatMap Answer.blocks

/-- What the consumer got, the first first. -/
def yields (feed : Feed) : List Yield :=
  feed.log.filterMap (·.event.yield?)

/-- The batches that the consumer got. -/
def batches (feed : Feed) : List Batch :=
  feed.yields.filterMap Yield.batch?

/-- The blocks that the consumer got. -/
def delivered (feed : Feed) : List Block :=
  feed.batches.flatMap Batch.blocks

/-- The blocks that have been read from lines and not been lost: those that the
consumer got, and those that wait for a release. -/
def gathered (feed : Feed) : List Block :=
  feed.delivered ++ feed.buffer.pendingBlocks

/-- Whether the consumer was told that the feed has ended. -/
def hasEnded (feed : Feed) : Bool := feed.yields.any Yield.isEnd

/-- Whether the consumer was told that the feed has failed. -/
def hasFailed (feed : Feed) : Bool := feed.yields.any Yield.isFailure

/-- The portal said of a request, or of the rest of a body, that it was called
off. -/
def HearsCancellation (feed : Feed) : Prop :=
  (∃ count < feed.asked, (feed.plan.portal.height count).content = .failed .cancelled) ∨
    .failed .cancelled ∈ feed.answers ∨
    ∃ entry ∈ feed.log, entry.event.isCancellation = true

instance (feed : Feed) : Decidable feed.HearsCancellation :=
  inferInstanceAs (Decidable (_ ∨ _ ∨ _))

section record

variable (feed : Feed) (now : Instant) (event : Event)

@[simp] theorem posts_record :
    (feed.record now event).posts = feed.posts ++ event.post?.toList := by
  cases post : event.post? <;> simp [posts, record, post]

@[simp] theorem yields_record :
    (feed.record now event).yields = feed.yields ++ event.yield?.toList := by
  cases got : event.yield? <;> simp [yields, record, got]

/-- Every event leaves what was heard before. -/
theorem HearsCancellation.record
    {feed : Feed}
    (hears : feed.HearsCancellation)
    (now : Instant)
    (event : Event) :
    (feed.record now event).HearsCancellation := by
  rcases hears with ofHeight | ofReply | ofBody
  · exact .inl ofHeight
  · refine .inr (.inl ?_)
    simp only [answers, posts_record, List.zipIdx_append, List.map_append, List.mem_append]
    exact .inl ofReply
  · obtain ⟨entry, mem, isCancellation⟩ := ofBody
    exact .inr (.inr ⟨entry, List.mem_append_left _ mem, isCancellation⟩)

end record

/-- The answer to a query that is posted now is behind all earlier answers. -/
theorem answers_of_posts_append
    {feed next : Feed} {query : Query}
    (plan : next.plan = feed.plan)
    (posts : next.posts = feed.posts ++ [query]) :
    next.answers =
      feed.answers ++ [(feed.plan.portal.reply feed.posts.length query).content] := by
  simp [answers, plan, posts, List.zipIdx_append]

end Feed
end BlockFeed
