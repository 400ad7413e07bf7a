import BlockFeed.Proofs.Feed.Frames
import BlockFeed.Proofs.Fleet
import BlockFeed.Proofs.Height

/-!
# The account of a feed

As long as the loop of a feed has not ended, the blocks that the consumer got,
those that wait for a release and those ahead in the body that is being read
are together the blocks that the portal holds ready, in their order, and the
cursor stands behind the last one that was read. When the loop ends without a
fault and without being called off, nothing is ahead any more. Later on, blocks
only move from the buffer to the consumer, or are dropped from the end when a
fault is reported.
-/

namespace BlockFeed
namespace Feed

/-- The blocks in the lines of a body that have not been handed on. -/
def Reading.ahead (reading : Reading) : List Block :=
  if reading.exhausted then []
  else
    Ndjson.readable
      (Line.completed (reading.splitter.fragment ++ Reply.octets reading.rest)
        (Reply.isWhole reading.rest))

/-- The first number behind the blocks that have been gathered. -/
def position (feed : Feed) : UInt64 :=
  (feed.gathered.getLast?.map Block.successor).getD feed.plan.query.firstBlock

/-! ## Accounts -/

/-- Two states of a feed have gathered the same blocks and posted the same
queries. -/
structure Agrees (feed next : Feed) : Prop where
  plan : next.plan = feed.plan
  posted : next.posted = feed.posted
  posts : next.posts = feed.posts
  gathered : next.gathered = feed.gathered

/-- The loop has not ended, and `ahead` is what the portal holds ready beyond the
blocks that have been gathered. -/
structure Underway (feed : Feed) (ahead : List Block) : Prop where
  running : feed.buffer.phase = .running
  posted : feed.posted = feed.posts.length
  whole : feed.gathered ++ ahead = feed.produced

/-- A body is read in step with the blocks that have been gathered. -/
structure Reads (feed : Feed) (reading : Reading) : Prop where
  clean : reading.splitter.IsClean
  cursor : reading.cursor = feed.position
  origin : reading.origin = feed.cursor

/-- The loop has ended: what has been gathered is an initial part of what the
portal holds ready, and all of it unless there is a reason. -/
structure Settled (feed : Feed) (cancelled : Bool) : Prop where
  initial : feed.gathered <+: feed.produced
  closed : feed.buffer.phase = .closed ->
    cancelled = true ∨ feed.HearsCancellation ∨ feed.gathered = feed.produced

/-- The invariant of the loop. -/
def Conserves (feed : Feed) (cancelled : Bool) : Prop :=
  match feed.stage with
  | .finished => feed.Settled cancelled
  | .asking _ answer =>
      feed.Underway [] ∧ feed.cursor = feed.position ∧
        (answer.content = .failed .cancelled -> feed.HearsCancellation)
  | .posting _ _ answer =>
      feed.Underway answer.content.blocks ∧ feed.cursor = feed.position ∧
        answer.content ∈ feed.answers
  | .reading _ reading =>
      feed.Underway reading.ahead ∧ feed.Reads reading ∧ reading.exhausted = false
  | .held _ reading => feed.Underway reading.ahead ∧ feed.Reads reading
  | _ => feed.Underway [] ∧ feed.cursor = feed.position

variable {feed next : Feed} {ahead : List Block} {now : Instant} {cancelled : Bool}

/-! ## What keeps the account -/

namespace Agrees

/-- Whoever leaves the log and the pending blocks alone keeps the account. -/
theorem of_log
    (plan : next.plan = feed.plan)
    (posted : next.posted = feed.posted)
    (log : next.log = feed.log)
    (pendingBlocks : next.buffer.pendingBlocks = feed.buffer.pendingBlocks) :
    feed.Agrees next where
  plan := plan
  posted := posted
  posts := by rw [Feed.posts, log, Feed.posts]
  gathered := by
    rw [Feed.gathered, Feed.delivered, Feed.batches, Feed.yields, log, pendingBlocks]
    rfl

theorem trans {last : Feed} (first : feed.Agrees next) (second : next.Agrees last) :
    feed.Agrees last where
  plan := second.plan.trans first.plan
  posted := second.posted.trans first.posted
  posts := second.posts.trans first.posts
  gathered := second.gathered.trans first.gathered

theorem produced (agrees : feed.Agrees next) : next.produced = feed.produced := by
  rw [Feed.produced, answers, agrees.posts, agrees.plan]
  rfl

theorem position (agrees : feed.Agrees next) : next.position = feed.position := by
  rw [Feed.position, agrees.gathered, agrees.plan]
  rfl

end Agrees

/-- Working without touching the pending blocks keeps the account. -/
theorem Working.agrees
    (working : feed.Working now next)
    (posted : next.posted = feed.posted)
    (pendingBlocks : next.buffer.pendingBlocks = feed.buffer.pendingBlocks) :
    feed.Agrees next where
  plan := working.plan
  posted := posted
  posts := working.posts
  gathered := by
    rw [Feed.gathered, Feed.delivered, Feed.batches, working.yields, pendingBlocks]
    rfl

theorem agrees_record
    (feed : Feed) (now : Instant) (event : Event)
    (noPost : event.post? = none)
    (noYield : event.yield? = none) :
    feed.Agrees (feed.record now event) :=
  (feed.working_record now event noYield noPost).agrees rfl rfl

theorem agrees_abandon (feed : Feed) (now : Instant) : feed.Agrees (feed.abandon now) :=
  (feed.working_abandon now).agrees rfl rfl

@[simp] theorem cursor_decline (feed : Feed) (now : Instant) (reply : Reply) :
    (feed.decline now reply).cursor = feed.cursor := by
  unfold decline
  split <;> rfl

@[simp] theorem buffer_decline (feed : Feed) (now : Instant) (reply : Reply) :
    (feed.decline now reply).buffer = feed.buffer := by
  unfold decline
  split <;> rfl

theorem agrees_decline (feed : Feed) (now : Instant) (reply : Reply) :
    feed.Agrees (feed.decline now reply) := by
  refine (feed.working_decline now reply).agrees ?_ (by rw [buffer_decline])
  unfold decline
  split <;> rfl

theorem agrees_hint (feed : Feed) : feed.Agrees { feed with buffer := feed.buffer.hint } :=
  .of_log rfl rfl rfl rfl

theorem agrees_finish (feed : Feed) : feed.Agrees feed.finish :=
  (feed.working_finish 0).agrees rfl Buffer.pendingBlocks_close

theorem agrees_fail (feed : Feed) (fault : Fault) : feed.Agrees (feed.fail fault) :=
  (feed.working_fail 0 fault).agrees rfl (Buffer.pendingBlocks_fail fault)

namespace Underway

/-- A loop that goes on without touching the account is still underway. -/
theorem of_agrees
    (underway : feed.Underway ahead)
    (agrees : feed.Agrees next)
    (running : next.buffer.phase = feed.buffer.phase) :
    next.Underway ahead where
  running := running.trans underway.running
  posted := by rw [agrees.posted, agrees.posts, underway.posted]
  whole := by rw [agrees.gathered, agrees.produced, underway.whole]

/-- A loop that ends has gathered an initial part. -/
theorem settled
    (underway : feed.Underway ahead)
    (agrees : feed.Agrees next)
    (closed : next.buffer.phase = .closed ->
      cancelled = true ∨ next.HearsCancellation ∨ ahead = []) :
    next.Settled cancelled where
  initial := by
    rw [agrees.gathered, agrees.produced, ← underway.whole]
    exact List.prefix_append _ _
  closed isClosed := by
    rcases closed isClosed with isCancelled | hears | nothingAhead
    · exact .inl isCancelled
    · exact .inr (.inl hears)
    · refine .inr (.inr ?_)
      rw [agrees.gathered, agrees.produced, ← underway.whole, nothingAhead, List.append_nil]

/-- More blocks have been gathered. -/
theorem grown
    {blocks : List Block}
    (underway : feed.Underway (blocks ++ ahead))
    (now : Instant)
    (bytes : Nat) :
    Underway { feed with buffer := feed.buffer.grown now blocks bytes } ahead where
  running := underway.running
  posted := underway.posted
  whole := by
    have whole : feed.gathered ++ (blocks ++ ahead) = feed.produced := underway.whole
    rw [← List.append_assoc, gathered, List.append_assoc feed.delivered] at whole
    exact whole

/-! ### Ends -/

theorem finish (underway : feed.Underway []) : feed.finish.Conserves cancelled :=
  underway.settled feed.agrees_finish fun _ => .inr (.inr rfl)

theorem fail
    (underway : feed.Underway ahead)
    {fault : Fault}
    (hears : fault.isCancelled = true -> feed.HearsCancellation) :
    (feed.fail fault).Conserves cancelled := by
  refine underway.settled (feed.agrees_fail fault) ?_
  intro closed
  refine .inr (.inl ?_)
  have ended : Buffer.endedBy fault = .closed := by
    have phase : (feed.buffer.fail fault).phase = .closed := closed
    rwa [Buffer.fail_of_running underway.running] at phase
  unfold Buffer.endedBy at ended
  split at ended
  · next isCancelled => exact hears isCancelled
  · cases ended

theorem callOff (underway : feed.Underway ahead) (now : Instant) :
    (feed.callOff now).Conserves true := by
  unfold Feed.callOff
  split
  · exact underway.settled
      ((feed.agrees_abandon now).trans (agrees_finish _)) fun _ => .inl rfl
  · exact underway.settled feed.agrees_finish fun _ => .inl rfl

/-! ### Going on -/

theorem atHead
    (underway : feed.Underway [])
    (inStep : feed.cursor = feed.position)
    (now : Instant) :
    (feed.atHead now).Conserves cancelled := by
  unfold Feed.atHead
  split
  · exact underway.finish
  · exact ⟨underway.of_agrees (.of_log rfl rfl rfl rfl) rfl, inStep⟩

theorem endReply
    (underway : feed.Underway [])
    {origin cursor : UInt64}
    (isOrigin : origin = feed.cursor)
    (inStep : cursor = feed.position)
    (now : Instant) :
    (feed.endReply now origin cursor).Conserves cancelled := by
  have hinted : Underway { feed with buffer := feed.buffer.hint } [] :=
    underway.of_agrees feed.agrees_hint rfl
  unfold Feed.endReply
  split
  · next same =>
      refine hinted.atHead ?_ now
      have equal : cursor = origin := by simpa using same
      exact isOrigin.symm.trans (equal.symm.trans inStep)
  · exact ⟨hinted.of_agrees (.of_log rfl rfl rfl rfl) rfl, inStep⟩

theorem continueReading
    {reading : Reading}
    (underway : feed.Underway reading.ahead)
    (reads : feed.Reads reading)
    (now : Instant) :
    (feed.continueReading now reading).Conserves cancelled := by
  unfold Feed.continueReading
  split
  · next exhausted =>
      have nothingAhead : reading.ahead = [] := by simp [Reading.ahead, exhausted]
      rw [nothingAhead] at underway
      exact underway.endReply reads.origin reads.cursor now
  · next notExhausted =>
      exact ⟨underway.of_agrees (.of_log rfl rfl rfl rfl) rfl,
        ⟨reads.clean, reads.cursor, reads.origin⟩, by simpa using notExhausted⟩

end Underway

/-! ## Reading -/

/-- Behind a portion of blocks, the cursor of a body is still in step. -/
theorem Reads.grown
    {reading : Reading}
    (reads : feed.Reads reading)
    {part : Ndjson.Portion}
    (someBlocks : part.blocks ≠ [])
    (now : Instant)
    (bytes : Nat) :
    Reads { feed with buffer := feed.buffer.grown now part.blocks bytes }
      { reading with cursor := part.cursorBehind reading.cursor } where
  clean := reads.clean
  cursor := by
    obtain ⟨last, isLast⟩ := Option.ne_none_iff_exists'.mp
      (fun none => someBlocks (List.getLast?_eq_none_iff.mp none))
    simp [position, gathered, Ndjson.Portion.cursorBehind, List.getLast?_append, isLast]
  origin := reads.origin

/-- Handing on a group of lines keeps the account of what is ahead. -/
theorem Handing.conserves
    {reading : Reading} {lines : List Bytes}
    (handing : feed.Handing now reading lines next)
    (underway : feed.Underway (Ndjson.readable lines ++ reading.ahead))
    (reads : feed.Reads reading) :
    next.Conserves cancelled := by
  cases handing with
  | spoiled fault spoiled =>
      have isFault := Ndjson.isCancelled_of_portion spoiled
      split
      · exact underway.fail (by simp [isFault])
      · have abandoned := underway.of_agrees (feed.agrees_abandon now) rfl
        exact abandoned.fail (by simp [isFault])
  | blank part read empty =>
      rw [Ndjson.blocks_of_portion read, empty] at underway
      exact underway.continueReading reads now
  | added part read someBlocks =>
      rw [Ndjson.blocks_of_portion read] at underway
      have readsOn := reads.grown someBlocks now part.bytes
      have sameAhead :
          { reading with cursor := part.cursorBehind reading.cursor }.ahead = reading.ahead := rfl
      have grown := underway.grown now part.bytes
      rw [← sameAhead] at grown
      exact grown.continueReading readsOn now
  | filled part read someBlocks =>
      rw [Ndjson.blocks_of_portion read] at underway
      have grown := underway.grown now part.bytes
      have readsOn := reads.grown someBlocks now part.bytes
      exact ⟨grown.of_agrees (.of_log rfl rfl rfl rfl) rfl,
        ⟨readsOn.clean, readsOn.cursor, readsOn.origin⟩⟩
  | discarded _ _ _ ended => exact absurd underway.running ended

/-- The end of a body leaves nothing ahead but the line that it left
unfinished. -/
theorem Reading.ahead_of_end
    {reading : Reading}
    (clean : reading.splitter.IsClean)
    (notExhausted : reading.exhausted = false)
    (atEnd : reading.rest = []) :
    reading.ahead = Ndjson.readable reading.splitter.finish.1.toList := by
  rw [Ndjson.readable_finish, ← Line.completed_fragment clean]
  simp [Reading.ahead, notExhausted, atEnd]

/-- A chunk of a body moves the lines that it completes out of what is ahead. -/
theorem Reading.ahead_of_data
    {reading : Reading}
    (clean : reading.splitter.IsClean)
    (notExhausted : reading.exhausted = false)
    {delay : Duration} {chunk : Bytes} {rest : List (Timed Item)}
    (parts : reading.rest = ⟨delay, .data chunk⟩ :: rest) :
    reading.ahead =
      Ndjson.readable (reading.splitter.push chunk).1 ++
        Reading.ahead
          { reading with
            splitter := (reading.splitter.push chunk).2
            index := reading.index + 1
            rest := rest } := by
  simp only [Reading.ahead, notExhausted, parts, Reply.octets_data, Reply.isWhole_data,
    Line.completed_push clean, Ndjson.readable_append, Bool.false_eq_true, if_false]

/-! ## Steps of the loop -/

/-! ### Requests -/

/-- A fault of a request is a cancellation only if the portal said so. -/
theorem hears_of_height
    {answer : Answer String} {fault : Fault}
    (heard : answer = .failed .cancelled -> feed.HearsCancellation)
    (failed : answer.outcome.bind Height.parse = .error fault)
    (isCancelled : fault.isCancelled = true) :
    feed.HearsCancellation := by
  cases outcome : answer.outcome with
  | error reported =>
      rw [outcome] at failed
      obtain rfl : reported = fault := Except.error.inj failed
      exact heard (Answer.eq_failed_of_outcome outcome isCancelled)
  | ok body =>
      have refused : Height.parse body = .error fault := by
        rw [outcome] at failed
        exact failed
      rw [(Height.parse_eq_error_iff.mp refused).1] at isCancelled
      simp at isCancelled

theorem posts_post (feed : Feed) (now : Instant) (tip : BlockRef) :
    (feed.post now false tip).posts =
      feed.posts ++ [feed.plan.query.startingAt feed.cursor] :=
  feed.posts_record now (.posted false _)

/-- A query that is posted adds its answer to what the portal holds ready. -/
theorem Underway.produced_post
    (underway : feed.Underway ahead)
    (now : Instant)
    (tip : BlockRef) :
    (feed.post now false tip).answers =
        feed.answers ++
          [(feed.plan.portal.reply feed.posted
            (feed.plan.query.startingAt feed.cursor)).content] ∧
      (feed.post now false tip).produced =
        feed.produced ++
          (feed.plan.portal.reply feed.posted
            (feed.plan.query.startingAt feed.cursor)).content.blocks := by
  have answers : (feed.post now false tip).answers =
      feed.answers ++
        [(feed.plan.portal.reply feed.posted
          (feed.plan.query.startingAt feed.cursor)).content] := by
    rw [underway.posted]
    exact answers_of_posts_append rfl (feed.posts_post now tip)
  refine ⟨answers, ?_⟩
  rw [Feed.produced, answers]
  simp [Feed.produced]

theorem Underway.post
    (underway : feed.Underway [])
    (inStep : feed.cursor = feed.position)
    (now : Instant)
    (tip : BlockRef) :
    (feed.post now false tip).Conserves cancelled := by
  have posts := feed.posts_post now tip
  have gathered : (feed.post now false tip).gathered = feed.gathered := by
    have yields : (feed.post now false tip).yields = feed.yields :=
      (feed.yields_record now (.posted false _)).trans (List.append_nil _)
    rw [Feed.gathered, delivered, batches, yields]
    rfl
  obtain ⟨answers, produced⟩ := underway.produced_post now tip
  refine ⟨⟨underway.running, ?_, ?_⟩, ?_, ?_⟩
  · rw [posts, List.length_append, ← underway.posted]
    rfl
  · rw [gathered, produced, ← underway.whole, List.append_nil]
  · rw [position, gathered]
    exact inStep
  · rw [answers]
    exact List.mem_append_right _ (List.mem_singleton.mpr rfl)

theorem Underway.askHeight
    (underway : feed.Underway [])
    (inStep : feed.cursor = feed.position)
    (now : Instant) :
    (feed.askHeight now false).Conserves cancelled := by
  have agrees : feed.Agrees (feed.askHeight now false) :=
    (feed.agrees_record now (.asked false) rfl rfl).trans (.of_log rfl rfl rfl rfl)
  refine ⟨underway.of_agrees agrees rfl, ?_, ?_⟩
  · rw [agrees.position]
    exact inStep
  · intro isCancelled
    exact .inl ⟨feed.asked, Nat.lt_succ_self _, isCancelled⟩

/-! ### Replies -/

/-- A body begins with all of its blocks ahead. -/
theorem Underway.opened
    {reply : Reply} {parts : List (Timed Item)}
    (underway : feed.Underway (Answer.ok reply).blocks)
    (status : (reply.status == 200) = true)
    (body : reply.body = some parts)
    (inStep : feed.cursor = feed.position)
    (tip : BlockRef)
    (since : Instant) :
    Conserves
      { feed with
        tip := some tip
        stage := .reading since ⟨feed.cursor, feed.cursor, .empty, 0, parts, false⟩ }
      cancelled := by
  rw [Answer.blocks_of_body status body] at underway
  exact ⟨underway.of_agrees (.of_log rfl rfl rfl rfl) rfl,
    ⟨Line.Splitter.isClean_empty, inStep, rfl⟩, rfl⟩

/-- A reply without a body ends at once. -/
theorem Underway.bodiless
    {reply : Reply}
    (underway : feed.Underway (Answer.ok reply).blocks)
    (body : reply.body = none)
    (inStep : feed.cursor = feed.position)
    (tip : BlockRef)
    (now : Instant) :
    ({ feed with tip := some tip }.endReply now feed.cursor feed.cursor).Conserves cancelled := by
  rw [Answer.blocks_of_noBody body] at underway
  have informed : Underway { feed with tip := some tip } [] :=
    underway.of_agrees (.of_log rfl rfl rfl rfl) rfl
  exact informed.endReply rfl inStep now

/-- A reply of another status brings no blocks. -/
theorem Underway.nothing
    {reply : Reply}
    (underway : feed.Underway (Answer.ok reply).blocks)
    (status : (reply.status == 200) = false)
    (inStep : feed.cursor = feed.position)
    (now : Instant) :
    ((feed.decline now reply).atHead now).Conserves cancelled := by
  rw [Answer.blocks_of_status status] at underway
  have agrees := feed.agrees_decline now reply
  have declined := underway.of_agrees agrees (by rw [buffer_decline])
  refine declined.atHead ?_ now
  rw [cursor_decline, agrees.position]
  exact inStep

/-! ### Bodies -/

/-- The end of a body completes the line that it left unfinished. -/
theorem Underway.exhausted
    {reading : Reading}
    (underway : feed.Underway reading.ahead)
    (reads : feed.Reads reading)
    (notExhausted : reading.exhausted = false)
    (atEnd : reading.rest = [])
    (handing : (feed.record now (.released true)).Handing now
      { reading with splitter := reading.splitter.finish.2, exhausted := true }
      reading.splitter.finish.1.toList next) :
    next.Conserves cancelled := by
  have agrees := feed.agrees_record now (.released true) rfl rfl
  rw [Reading.ahead_of_end reads.clean notExhausted atEnd] at underway
  refine handing.conserves ?_ ⟨reads.clean.finish, ?_, reads.origin⟩
  · simpa [Reading.ahead] using underway.of_agrees agrees rfl
  · exact reads.cursor.trans agrees.position.symm

/-- A chunk of a body completes some lines. -/
theorem Underway.received
    {reading : Reading} {delay : Duration} {chunk : Bytes} {rest : List (Timed Item)}
    (underway : feed.Underway reading.ahead)
    (reads : feed.Reads reading)
    (notExhausted : reading.exhausted = false)
    (parts : reading.rest = ⟨delay, .data chunk⟩ :: rest)
    (handing : (feed.record now (.received reading.index (.data chunk))).Handing now
      { reading with
        splitter := (reading.splitter.push chunk).2
        index := reading.index + 1
        rest := rest }
      (reading.splitter.push chunk).1 next) :
    next.Conserves cancelled := by
  have agrees := feed.agrees_record now (.received reading.index (.data chunk)) rfl rfl
  rw [Reading.ahead_of_data reads.clean notExhausted parts] at underway
  refine handing.conserves (underway.of_agrees agrees rfl)
    ⟨reads.clean.push chunk, ?_, reads.origin⟩
  exact reads.cursor.trans agrees.position.symm

/-- A body that breaks off because it was called off says so. -/
theorem Underway.broke
    (underway : feed.Underway ahead)
    (now : Instant)
    (index : Nat)
    (fault : Fault) :
    (((feed.record now (.received index (.failed fault))).abandon now).fail fault).Conserves
      cancelled := by
  have received := feed.agrees_record now (.received index (.failed fault)) rfl rfl
  have abandoned := underway.of_agrees (received.trans (agrees_abandon _ now)) rfl
  refine abandoned.fail ?_
  intro isCancelled
  refine .inr (.inr ⟨⟨now, .received index (.failed fault)⟩, ?_, isCancelled⟩)
  simp [abandon, record]

/-! ### All steps -/

/-- Either the loop has ended, or something, perhaps nothing, is ahead. -/
theorem Conserves.settled_or_underway (conserves : feed.Conserves cancelled) :
    feed.stage = .finished ∧ feed.Settled cancelled ∨ ∃ ahead, feed.Underway ahead := by
  unfold Conserves at conserves
  split at conserves
  · next finished => exact .inl ⟨finished, conserves⟩
  all_goals exact .inr ⟨_, conserves.1⟩

/-- Every step of the loop keeps its invariant. -/
theorem Conserves.proceed
    (conserves : feed.Conserves cancelled)
    (proceeding : feed.Proceeding now cancelled next) :
    next.Conserves cancelled := by
  cases proceeding with
  | overreached turning =>
      simp only [Conserves, turning] at conserves
      exact conserves.1.finish
  | calledOff going _ isCancelled =>
      rw [isCancelled]
      rcases conserves.settled_or_underway with ⟨finished, _⟩ | ⟨ahead, underway⟩
      · exact absurd finished going
      · exact underway.callOff now
  | recalled _ turning =>
      simp only [Conserves, turning] at conserves
      exact ⟨conserves.1.of_agrees (.of_log rfl rfl rfl rfl) rfl, conserves.2⟩
  | asked turning =>
      simp only [Conserves, turning] at conserves
      exact conserves.1.askHeight conserves.2 now
  | learned _ _ _ asking =>
      simp only [Conserves, asking] at conserves
      exact ⟨conserves.1.of_agrees (.of_log rfl rfl rfl rfl) rfl, conserves.2.1⟩
  | unlearned _ _ fault asking _ _ failed =>
      simp only [Conserves, asking] at conserves
      exact conserves.1.fail (hears_of_height conserves.2.2 failed)
  | posted tip resolved =>
      simp only [Conserves, resolved] at conserves
      exact conserves.1.post conserves.2 now tip
  | opened tip since answer reply parts posting _ _ content status body =>
      simp only [Conserves, posting, content] at conserves
      exact conserves.1.opened status body conserves.2.1 tip now
  | bodiless tip since answer reply posting _ _ content _ body =>
      simp only [Conserves, posting, content] at conserves
      exact conserves.1.bodiless body conserves.2.1 tip now
  | nothing tip since answer reply posting _ _ content status =>
      simp only [Conserves, posting, content] at conserves
      exact conserves.1.nothing status conserves.2.1 now
  | refused tip since answer reply posting =>
      simp only [Conserves, posting] at conserves
      have declined := conserves.1.of_agrees (feed.agrees_decline now reply)
        (by rw [buffer_decline])
      exact declined.fail (by simp)
  | unanswered tip since answer fault posting _ _ failed =>
      simp only [Conserves, posting] at conserves
      refine conserves.1.fail ?_
      intro isCancelled
      rw [Answer.eq_failed_of_outcome failed isCancelled] at conserves
      exact .inr (.inl conserves.2.2)
  | exhausted since reading _ stage _ atEnd handing =>
      simp only [Conserves, stage] at conserves
      exact conserves.1.exhausted conserves.2.1 conserves.2.2 atEnd handing
  | received since reading delay chunk rest _ stage _ parts _ handing =>
      simp only [Conserves, stage] at conserves
      exact conserves.1.received conserves.2.1 conserves.2.2 parts handing
  | broke since reading delay fault rest stage =>
      simp only [Conserves, stage] at conserves
      exact conserves.1.broke now reading.index fault
  | crashed since reading delay rest stage =>
      simp only [Conserves, stage] at conserves
      have underway := conserves.1.of_agrees (feed.agrees_abandon now) rfl
      exact underway.fail (by simp [breakdown])
  | admitted ticket reading held =>
      simp only [Conserves, held] at conserves
      exact conserves.1.continueReading conserves.2 now
  | resumed target pausing =>
      simp only [Conserves, pausing] at conserves
      exact ⟨conserves.1.of_agrees (.of_log rfl rfl rfl rfl) rfl, conserves.2⟩

/-! ## The consumer -/

/-- The blocks that the consumer got at once. -/
def Yield.blocks (result : Yield) : List Block :=
  (result.batch?.map Batch.blocks).getD []

theorem delivered_handedOut
    (feed : Feed) (now : Instant) (result : Yield) (consumer : Consumer)
    (buffer : Buffer Block) :
    (feed.handedOut now result consumer buffer).delivered =
      feed.delivered ++ result.blocks := by
  have yields : (feed.handedOut now result consumer buffer).yields =
      feed.yields ++ [result] :=
    feed.yields_record now (.yielded result)
  rw [delivered, batches, yields, List.filterMap_append, List.flatMap_append]
  cases batch : result.batch? <;> simp [Yield.blocks, batch, delivered, batches]

/-- Blocks have moved from the buffer to the consumer, unless the buffer has
failed: then those that waited for a release have been dropped. -/
def Moves (feed next : Feed) : Prop :=
  (next.buffer.phase = feed.buffer.phase ∧ next.gathered = feed.gathered) ∨
    ((∃ report, feed.buffer.phase = .failed report) ∧
      next.buffer.phase = .failed none ∧ next.gathered = feed.delivered)

/-- The consumer gets the blocks that a take gets. -/
theorem moves_handedOut
    {deadline : Option Instant} {taken : Buffer.Take Block} {rest : Buffer Block}
    (taking : Buffer.Taking feed.buffer now deadline taken rest)
    {result : Yield}
    (same : result.blocks = taken.blocks)
    (consumer : Consumer) :
    feed.Moves (feed.handedOut now result consumer rest) := by
  have gathered : (feed.handedOut now result consumer rest).gathered =
      feed.delivered ++ (taken.blocks ++ rest.pendingBlocks) := by
    rw [Feed.gathered, delivered_handedOut, same, List.append_assoc]
    rfl
  rcases taking.moves with ⟨phase, moved⟩ | ⟨failed, phase, noBlocks, noRest⟩
  · exact .inl ⟨phase, by rw [gathered, moved, Feed.gathered]⟩
  · exact .inr ⟨failed, phase, by rw [gathered, noBlocks, noRest]; exact List.append_nil _⟩

/-- Telling the consumer anything else moves nothing. -/
theorem moves_told
    {result : Yield}
    (noBlocks : result.blocks = [])
    (consumer : Consumer) :
    feed.Moves (feed.handedOut now result consumer feed.buffer) := by
  refine .inl ⟨rfl, ?_⟩
  rw [gathered, delivered_handedOut, noBlocks, List.append_nil]
  rfl

/-- Asking for a batch only moves blocks. -/
theorem Polling.moves
    {result : Option Yield}
    (polling : feed.Polling now result next) :
    feed.Moves next := by
  cases polling with
  | unrepresentable => exact moves_told rfl _
  | took deadline blocks rest _ taking => exact moves_handedOut taking rfl _
  | ended deadline rest _ taking => exact moves_handedOut taking rfl _
  | failed deadline fault rest _ taking => exact moves_handedOut taking rfl _
  | overflowed deadline rest _ taking => exact moves_handedOut taking rfl _
  | waited deadline wake rest _ taking =>
      cases taking with
      | waiting => exact .inl ⟨rfl, rfl⟩
  | warned => exact moves_told rfl _
  | silent => exact .inl ⟨rfl, rfl⟩

theorem Underway.look
    (underway : feed.Underway ahead)
    (looking : feed.Looking next)
    (phase : next.buffer.phase = feed.buffer.phase)
    (gathered : next.gathered = feed.gathered) :
    next.Underway ahead :=
  underway.of_agrees ⟨looking.plan, looking.posted, looking.posts, gathered⟩ phase

theorem Settled.look
    (settled : feed.Settled cancelled)
    (looking : feed.Looking next)
    (moves : feed.Moves next) :
    next.Settled cancelled := by
  rcases moves with ⟨phase, gathered⟩ | ⟨_, phase, gathered⟩
  · refine ⟨by rw [gathered, looking.produced]; exact settled.initial, ?_⟩
    intro closed
    rw [gathered, looking.produced]
    rcases settled.closed (phase.symm.trans closed) with isCancelled | hears | whole
    · exact .inl isCancelled
    · exact .inr (.inl (looking.hears hears))
    · exact .inr (.inr whole)
  · refine ⟨?_, by simp [phase]⟩
    rw [gathered, looking.produced]
    exact (List.prefix_append _ _).trans settled.initial

/-- Nothing that the consumer does breaks the invariant of the loop. -/
theorem Conserves.look
    (conserves : feed.Conserves cancelled)
    (looking : feed.Looking next)
    (moves : feed.Moves next) :
    next.Conserves cancelled := by
  unfold Conserves at conserves ⊢
  rw [looking.stage]
  -- Before the end of the loop the buffer is running, so that blocks only move.
  have onTheWay : ∀ {ahead : List Block}, feed.Underway ahead ->
      next.Underway ahead ∧ next.position = feed.position := by
    intro ahead underway
    rcases moves with ⟨phase, gathered⟩ | ⟨⟨report, failed⟩, _⟩
    · refine ⟨underway.look looking phase gathered, ?_⟩
      rw [position, gathered, looking.plan, position]
    · exact absurd (underway.running.symm.trans failed) nofun
  split at conserves
  · exact conserves.look looking moves
  · obtain ⟨underway, inStep, hears⟩ := conserves
    obtain ⟨underwayNow, position⟩ := onTheWay underway
    exact ⟨underwayNow, by rw [looking.cursor, position, inStep],
      fun isCancelled => looking.hears (hears isCancelled)⟩
  · obtain ⟨underway, inStep, isAnswer⟩ := conserves
    obtain ⟨underwayNow, position⟩ := onTheWay underway
    exact ⟨underwayNow, by rw [looking.cursor, position, inStep],
      by rw [looking.answers]; exact isAnswer⟩
  · obtain ⟨underway, reads, notExhausted⟩ := conserves
    obtain ⟨underwayNow, position⟩ := onTheWay underway
    exact ⟨underwayNow,
      ⟨reads.clean, reads.cursor.trans position.symm, reads.origin.trans looking.cursor.symm⟩,
      notExhausted⟩
  · obtain ⟨underway, reads⟩ := conserves
    obtain ⟨underwayNow, position⟩ := onTheWay underway
    exact ⟨underwayNow,
      ⟨reads.clean, reads.cursor.trans position.symm, reads.origin.trans looking.cursor.symm⟩⟩
  · obtain ⟨underway, inStep⟩ := conserves
    obtain ⟨underwayNow, position⟩ := onTheWay underway
    exact ⟨underwayNow, by rw [looking.cursor, position, inStep]⟩

/-- What has been gathered is an initial part of what the portal holds ready. -/
theorem Conserves.gathered_isPrefix (conserves : feed.Conserves cancelled) :
    feed.gathered <+: feed.produced := by
  rcases conserves.settled_or_underway with ⟨_, settled⟩ | ⟨ahead, underway⟩
  · exact settled.initial
  · rw [← underway.whole]
    exact List.prefix_append _ _

/-- Once a buffer has been closed for no other reason, everything has been
gathered. -/
theorem Conserves.gathered_of_closed
    (conserves : feed.Conserves false)
    (closed : feed.buffer.phase = .closed)
    (hearsNothing : ¬feed.HearsCancellation) :
    feed.gathered = feed.produced := by
  rcases conserves.settled_or_underway with ⟨_, settled⟩ | ⟨ahead, underway⟩
  · rcases settled.closed closed with isCancelled | hears | whole
    · cases isCancelled
    · exact absurd hears hearsNothing
    · exact whole
  · exact absurd (underway.running.symm.trans closed) nofun

/-- Being called off leaves an account as it is. -/
theorem Conserves.calledOff (conserves : feed.Conserves false) : feed.Conserves true := by
  unfold Conserves at conserves ⊢
  split at conserves
  · exact ⟨conserves.initial, fun _ => .inl rfl⟩
  all_goals exact conserves

/-- The account of every feed is kept at all times. -/
theorem conserves_invariant :
    Fleet.Invariant fun feed _ cancelled => feed.Conserves cancelled where
  opened _ _ _ _ _ := ⟨⟨rfl, rfl, rfl⟩, rfl⟩
  proceeds conserves proceeding := conserves.proceed proceeding
  polls conserves polling := conserves.look polling.looking polling.moves
  leaves conserves := conserves.look looking_leave (.inl ⟨rfl, rfl⟩)
  calledOff conserves := conserves.calledOff
  later _ conserves := conserves

end Feed
end BlockFeed
