import BlockFeed.Proofs.Buffer.Operations
import BlockFeed.Proofs.Feed.Log

/-!
# The steps of a feed

The steps of the loop and the looks of the consumer are described once, each
with what it presupposes and what it leaves behind. The group of lines that a
part of a body completes is handed on in one of five ways.
-/

namespace BlockFeed
namespace Feed

/-- What may come of handing on a group of lines. -/
inductive Handing (feed : Feed) (now : Instant) (reading : Reading) (lines : List Bytes) :
    Feed -> Prop
  /-- One of the lines is no block. -/
  | spoiled (fault : Fault) :
      Ndjson.portion lines = .error fault ->
      Handing feed now reading lines
        ((if reading.exhausted then feed else feed.abandon now).fail fault)
  /-- There are no blocks. -/
  | blank (part : Ndjson.Portion) :
      Ndjson.portion lines = .ok part ->
      part.blocks = [] ->
      Handing feed now reading lines (feed.continueReading now reading)
  /-- The blocks went into the buffer. -/
  | added (part : Ndjson.Portion) :
      Ndjson.portion lines = .ok part ->
      part.blocks ≠ [] ->
      feed.buffer.phase = .running ->
      feed.buffer.pendingBytes + part.bytes < feed.buffer.config.greatest ->
      Handing feed now reading lines
        ({ feed with buffer := feed.buffer.grown now part.blocks part.bytes }.continueReading
          now { reading with cursor := part.cursorBehind reading.cursor })
  /-- The blocks went into the buffer, which is full. -/
  | filled (part : Ndjson.Portion) :
      Ndjson.portion lines = .ok part ->
      part.blocks ≠ [] ->
      feed.buffer.phase = .running ->
      feed.buffer.config.greatest ≤ feed.buffer.pendingBytes + part.bytes ->
      Handing feed now reading lines
        { feed with
          buffer := feed.buffer.grown now part.blocks part.bytes
          stage := .held feed.buffer.releases
            { reading with cursor := part.cursorBehind reading.cursor } }
  /-- The buffer has ended and took no blocks. -/
  | discarded (part : Ndjson.Portion) :
      Ndjson.portion lines = .ok part ->
      part.blocks ≠ [] ->
      feed.buffer.phase ≠ .running ->
      Handing feed now reading lines
        (feed.continueReading now { reading with cursor := part.cursorBehind reading.cursor })

/-- Without blocks, a portion leaves the cursor where it is. -/
theorem cursorBehind_of_empty
    {part : Ndjson.Portion}
    (empty : part.blocks = [])
    (cursor : UInt64) :
    part.cursorBehind cursor = cursor := by
  simp [Ndjson.Portion.cursorBehind, empty]

/-- Lines are always handed on in one of these ways. -/
theorem handing_putLines (feed : Feed) (now : Instant) (reading : Reading)
    (lines : List Bytes) :
    feed.Handing now reading lines (feed.putLines now reading lines) := by
  cases read : Ndjson.portion lines with
  | error fault =>
      rw [putLines, read]
      exact .spoiled fault read
  | ok part =>
      by_cases empty : part.blocks = []
      · have same : { reading with cursor := part.cursorBehind reading.cursor } = reading := by
          rw [cursorBehind_of_empty empty]
        simp only [putLines, read, empty, List.isEmpty_nil, if_true, same]
        exact .blank part read empty
      · have notEmpty : part.blocks.isEmpty = false := by simpa using empty
        by_cases running : feed.buffer.phase = .running
        · by_cases below :
              feed.buffer.pendingBytes + part.bytes < feed.buffer.config.greatest
          · simp only [putLines, read, notEmpty, Buffer.put_of_running running, if_pos below,
              Bool.false_eq_true, if_false]
            exact .added part read empty running below
          · simp only [putLines, read, notEmpty, Buffer.put_of_running running, if_neg below,
              Bool.false_eq_true, if_false]
            exact .filled part read empty running (Nat.le_of_not_lt below)
        · simp only [putLines, read, notEmpty, Buffer.put_of_ended running,
            Bool.false_eq_true, if_false]
          exact .discarded part read empty running

/-! ## Behind a group of lines -/

/-- The loop has come to the end of a body. -/
def Stage.IsBehindBody : Stage -> Prop
  | .turning => True
  | .pausing _ => True
  | .finished => True
  | _ => False

theorem isBehindBody_atHead (feed : Feed) (now : Instant) :
    (feed.atHead now).stage.IsBehindBody := by
  unfold atHead
  split <;> trivial

theorem isBehindBody_endReply (feed : Feed) (now : Instant) (origin cursor : UInt64) :
    (feed.endReply now origin cursor).stage.IsBehindBody := by
  unfold endReply
  split
  · exact isBehindBody_atHead _ now
  · trivial

/-- The loop goes on with a body, or has come to its end. -/
theorem stage_continueReading (feed : Feed) (now : Instant) (reading : Reading) :
    (reading.exhausted = true ∧ (feed.continueReading now reading).stage.IsBehindBody) ∨
      (reading.exhausted = false ∧
        (feed.continueReading now reading).stage = .reading now reading) := by
  unfold continueReading
  split
  · next exhausted => exact .inl ⟨exhausted, feed.isBehindBody_endReply now _ _⟩
  · next notExhausted => exact .inr ⟨by simpa using notExhausted, rfl⟩

/-- Where the loop may stand when it has handed on a group of lines. -/
theorem Handing.stage
    {feed next : Feed} {now : Instant}
    {reading : Reading} {lines : List Bytes}
    (handing : feed.Handing now reading lines next) :
    (reading.exhausted = true ∧ next.stage.IsBehindBody) ∨
      next.stage = .finished ∨
      ∃ cursor, (reading.exhausted = false ∧
          next.stage = .reading now { reading with cursor := cursor }) ∨
        next.stage = .held feed.buffer.releases { reading with cursor := cursor } := by
  have goesOn : ∀ (feed : Feed) (cursor : UInt64),
      (reading.exhausted = true ∧
        (feed.continueReading now { reading with cursor := cursor }).stage.IsBehindBody) ∨
      (reading.exhausted = false ∧
        (feed.continueReading now { reading with cursor := cursor }).stage =
          .reading now { reading with cursor := cursor }) :=
    fun feed cursor => feed.stage_continueReading now { reading with cursor := cursor }
  cases handing with
  | spoiled => exact .inr (.inl rfl)
  | blank => exact (goesOn feed reading.cursor).imp id fun reads => .inr ⟨_, .inl reads⟩
  | added => exact (goesOn _ _).imp id fun reads => .inr ⟨_, .inl reads⟩
  | filled => exact .inr (.inr ⟨_, .inr rfl⟩)
  | discarded => exact (goesOn feed _).imp id fun reads => .inr ⟨_, .inl reads⟩

/-! ## The loop -/

/-- What the loop may do in one step. -/
inductive Proceeding (feed : Feed) (now : Instant) (cancelled : Bool) : Feed -> Prop
  | overreached :
      feed.stage = .turning ->
      feed.plan.query.reaches feed.cursor = false ->
      Proceeding feed now cancelled feed.finish
  | calledOff :
      feed.stage ≠ .finished ->
      (feed.stage = .turning -> feed.plan.query.reaches feed.cursor = true) ->
      cancelled = true ->
      Proceeding feed now cancelled (feed.callOff now)
  | recalled (height : UInt64) :
      feed.stage = .turning ->
      feed.plan.query.reaches feed.cursor = true ->
      cancelled = false ->
      feed.cache.fresh? now = some height ->
      Proceeding feed now cancelled { feed with stage := .resolved ⟨height, ""⟩ }
  | asked :
      feed.stage = .turning ->
      feed.plan.query.reaches feed.cursor = true ->
      cancelled = false ->
      feed.cache.fresh? now = none ->
      Proceeding feed now cancelled (feed.askHeight now false)
  | learned (since : Instant) (answer : Timed (Answer String)) (height : UInt64) :
      feed.stage = .asking since answer ->
      cancelled = false ->
      since + answer.delay ≤ now ->
      answer.content.outcome.bind Height.parse = .ok height ->
      Proceeding feed now cancelled
        { feed with
          cache := feed.cache.store now height
          stage := .resolved ⟨height, ""⟩ }
  | unlearned (since : Instant) (answer : Timed (Answer String)) (fault : Fault) :
      feed.stage = .asking since answer ->
      cancelled = false ->
      since + answer.delay ≤ now ->
      answer.content.outcome.bind Height.parse = .error fault ->
      Proceeding feed now cancelled (feed.fail fault)
  | posted (tip : BlockRef) :
      feed.stage = .resolved tip ->
      cancelled = false ->
      Proceeding feed now cancelled (feed.post now false tip)
  | opened (tip : BlockRef) (since : Instant) (answer : Timed (Answer Reply))
      (reply : Reply) (parts : List (Timed Item)) :
      feed.stage = .posting tip since answer ->
      cancelled = false ->
      since + answer.delay ≤ now ->
      answer.content = .ok reply ->
      (reply.status == 200) = true ->
      reply.body = some parts ->
      Proceeding feed now cancelled
        { feed with
          tip := some tip
          stage := .reading now ⟨feed.cursor, feed.cursor, .empty, 0, parts, false⟩ }
  | bodiless (tip : BlockRef) (since : Instant) (answer : Timed (Answer Reply))
      (reply : Reply) :
      feed.stage = .posting tip since answer ->
      cancelled = false ->
      since + answer.delay ≤ now ->
      answer.content = .ok reply ->
      (reply.status == 200) = true ->
      reply.body = none ->
      Proceeding feed now cancelled
        ({ feed with tip := some tip }.endReply now feed.cursor feed.cursor)
  | nothing (tip : BlockRef) (since : Instant) (answer : Timed (Answer Reply))
      (reply : Reply) :
      feed.stage = .posting tip since answer ->
      cancelled = false ->
      since + answer.delay ≤ now ->
      answer.content = .ok reply ->
      (reply.status == 200) = false ->
      (reply.status == 204) = true ->
      Proceeding feed now cancelled ((feed.decline now reply).atHead now)
  | refused (tip : BlockRef) (since : Instant) (answer : Timed (Answer Reply))
      (reply : Reply) :
      feed.stage = .posting tip since answer ->
      cancelled = false ->
      since + answer.delay ≤ now ->
      answer.content = .ok reply ->
      (reply.status == 200) = false ->
      (reply.status == 204) = false ->
      Proceeding feed now cancelled
        ((feed.decline now reply).fail
          (.unexpectedStatus reply.status.toNat feed.plan.address))
  | unanswered (tip : BlockRef) (since : Instant) (answer : Timed (Answer Reply))
      (fault : Fault) :
      feed.stage = .posting tip since answer ->
      cancelled = false ->
      since + answer.delay ≤ now ->
      answer.content.outcome = .error fault ->
      Proceeding feed now cancelled (feed.fail fault)
  | exhausted (since : Instant) (reading : Reading) (next : Feed) :
      feed.stage = .reading since reading ->
      cancelled = false ->
      reading.rest = [] ->
      (feed.record now (.released true)).Handing now
        { reading with splitter := reading.splitter.finish.2, exhausted := true }
        reading.splitter.finish.1.toList next ->
      Proceeding feed now cancelled next
  | received (since : Instant) (reading : Reading) (delay : Duration) (chunk : Bytes)
      (rest : List (Timed Item)) (next : Feed) :
      feed.stage = .reading since reading ->
      cancelled = false ->
      reading.rest = ⟨delay, .data chunk⟩ :: rest ->
      since + delay ≤ now ->
      (feed.record now (.received reading.index (.data chunk))).Handing now
        { reading with
          splitter := (reading.splitter.push chunk).2
          index := reading.index + 1
          rest := rest }
        (reading.splitter.push chunk).1 next ->
      Proceeding feed now cancelled next
  | broke (since : Instant) (reading : Reading) (delay : Duration) (fault : Fault)
      (rest : List (Timed Item)) :
      feed.stage = .reading since reading ->
      cancelled = false ->
      reading.rest = ⟨delay, .failed fault⟩ :: rest ->
      since + delay ≤ now ->
      Proceeding feed now cancelled
        (((feed.record now (.received reading.index (.failed fault))).abandon now).fail fault)
  | crashed (since : Instant) (reading : Reading) (delay : Duration)
      (rest : List (Timed Item)) :
      feed.stage = .reading since reading ->
      cancelled = false ->
      reading.rest = ⟨delay, .crash⟩ :: rest ->
      since + delay ≤ now ->
      Proceeding feed now cancelled ((feed.abandon now).fail breakdown)
  | admitted (ticket : Nat) (reading : Reading) :
      feed.stage = .held ticket reading ->
      cancelled = false ->
      feed.buffer.admits ticket = true ->
      Proceeding feed now cancelled (feed.continueReading now reading)
  | resumed (target : Instant) :
      feed.stage = .pausing target ->
      cancelled = false ->
      target ≤ now ->
      Proceeding feed now cancelled { feed with stage := .turning }

section proceed

variable {feed next : Feed} {now : Instant} {cancelled : Bool}

/-- A round begins in one of four ways. -/
theorem proceeding_turn (turning : feed.stage = .turning) :
    feed.Proceeding now cancelled (feed.turn now cancelled) := by
  unfold turn
  cases reaches : feed.plan.query.reaches feed.cursor with
  | false => exact .overreached turning reaches
  | true =>
      rw [Bool.not_true, if_neg Bool.false_ne_true]
      cases cancelled with
      | true =>
          rw [if_pos rfl]
          exact .calledOff (by simp [turning]) (fun _ => reaches) rfl
      | false =>
          rw [if_neg Bool.false_ne_true]
          cases fresh : feed.cache.fresh? now with
          | none => exact .asked turning reaches rfl fresh
          | some height => exact .recalled height turning reaches rfl fresh

/-- An answer about the height is heard in one of two ways. -/
theorem proceeding_hearHeight
    {since : Instant} {answer : Timed (Answer String)}
    (asking : feed.stage = .asking since answer)
    (going : cancelled = false)
    (arrived : since + answer.delay ≤ now) :
    feed.Proceeding now cancelled (feed.hearHeight now answer.content) := by
  cases content : answer.content with
  | ok body =>
      cases parsed : Height.parse body with
      | ok height =>
          simp only [hearHeight, parsed]
          refine .learned since answer height asking going arrived ?_
          rw [content]
          exact parsed
      | error fault =>
          simp only [hearHeight, parsed]
          refine .unlearned since answer fault asking going arrived ?_
          rw [content]
          exact parsed
  | failed fault =>
      refine .unlearned since answer fault asking going arrived ?_
      rw [content]
      rfl
  | crash =>
      refine .unlearned since answer breakdown asking going arrived ?_
      rw [content]
      rfl

/-- An answer to a query is heard in one of five ways. -/
theorem proceeding_hearReply
    {tip : BlockRef} {since : Instant} {answer : Timed (Answer Reply)}
    (posting : feed.stage = .posting tip since answer)
    (going : cancelled = false)
    (arrived : since + answer.delay ≤ now) :
    feed.Proceeding now cancelled (feed.hearReply now tip answer.content) := by
  cases content : answer.content with
  | ok reply =>
      cases isOk : reply.status == 200 with
      | true =>
          cases body : reply.body with
          | some parts =>
              simp only [hearReply, isOk, body, if_true]
              exact .opened tip since answer reply parts posting going arrived content isOk body
          | none =>
              simp only [hearReply, isOk, body, if_true]
              exact .bodiless tip since answer reply posting going arrived content isOk body
      | false =>
          cases isEmpty : reply.status == 204 with
          | true =>
              simp only [hearReply, isOk, isEmpty, Bool.false_eq_true, if_false, if_true]
              exact .nothing tip since answer reply posting going arrived content isOk isEmpty
          | false =>
              simp only [hearReply, isOk, isEmpty, Bool.false_eq_true, if_false]
              exact .refused tip since answer reply posting going arrived content isOk isEmpty
  | failed fault =>
      refine .unanswered tip since answer fault posting going arrived ?_
      rw [content]
      rfl
  | crash =>
      refine .unanswered tip since answer breakdown posting going arrived ?_
      rw [content]
      rfl

/-- A body goes on in one of four ways, unless its next part has not arrived. -/
theorem proceeding_read
    {since : Instant} {reading : Reading}
    (stage : feed.stage = .reading since reading)
    (going : cancelled = false)
    (proceeds : feed.read? now since reading = some next) :
    feed.Proceeding now cancelled next := by
  unfold read? at proceeds
  split at proceeds
  · next rest =>
      rw [← Option.some.inj proceeds]
      exact .exhausted since reading _ stage going rest (handing_putLines ..)
  · cases proceeds
  · next delay item rest _ parts =>
      split at proceeds
      · next arrived =>
          rw [← Option.some.inj proceeds]
          cases item with
          | data chunk =>
              exact .received since reading delay chunk rest _ stage going parts arrived
                (handing_putLines ..)
          | failed fault => exact .broke since reading delay fault rest stage going parts arrived
          | crash => exact .crashed since reading delay rest stage going parts arrived
          | silence => simp_all
      · cases proceeds

/-- Every step of the loop is one of these. -/
theorem proceeding_of_proceed (proceeds : feed.proceed? now cancelled = some next) :
    feed.Proceeding now cancelled next := by
  unfold proceed? at proceeds
  split at proceeds
  · cases proceeds
  · next turning =>
      rw [← Option.some.inj proceeds]
      exact proceeding_turn turning
  · next notFinished notTurning =>
      split at proceeds
      · next isCancelled =>
          rw [← Option.some.inj proceeds]
          exact .calledOff notFinished (fun turning => absurd turning notTurning) isCancelled
      · next isGoing =>
          have going : cancelled = false := by simpa using isGoing
          split at proceeds
          · next since answer asking =>
              split at proceeds
              · next arrived =>
                  rw [← Option.some.inj proceeds]
                  exact proceeding_hearHeight asking going arrived
              · cases proceeds
          · next tip resolved =>
              rw [← Option.some.inj proceeds, going]
              exact .posted tip resolved rfl
          · next tip since answer posting =>
              split at proceeds
              · next arrived =>
                  rw [← Option.some.inj proceeds]
                  exact proceeding_hearReply posting going arrived
              · cases proceeds
          · next since reading stage => exact proceeding_read stage going proceeds
          · next ticket reading held =>
              split at proceeds
              · next admits =>
                  rw [← Option.some.inj proceeds]
                  exact .admitted ticket reading held going admits
              · cases proceeds
          · next target pausing =>
              split at proceeds
              · next reached =>
                  rw [← Option.some.inj proceeds]
                  exact .resumed target pausing going reached
              · cases proceeds
          · cases proceeds

end proceed

/-! ## The consumer -/

/-- The consumer looks for a batch and would wait until a deadline. -/
def AsksUntil (feed : Feed) (now : Instant) (deadline : Option Instant) : Prop :=
  (feed.consumer = .idle ∧ feed.buffer.patienceDeadline now = .ok deadline) ∨
    ∃ wake, feed.consumer = .waiting deadline wake

/-- The feed after the consumer got something. -/
def handedOut (feed : Feed) (now : Instant) (result : Yield) (consumer : Consumer)
    (buffer : Buffer Block) : Feed :=
  { feed.record now (.yielded result) with consumer := consumer, buffer := buffer }

/-- What may come of asking for a batch. -/
inductive Polling (feed : Feed) (now : Instant) : Option Yield -> Feed -> Prop
  | unrepresentable (problem : Instant.Unrepresentable) :
      feed.consumer = .idle ->
      feed.buffer.patienceDeadline now = .error problem ->
      Polling feed now (some .overflow) (feed.handedOut now .overflow .over feed.buffer)
  | took (deadline : Option Instant) (blocks : List Block) (rest : Buffer Block) :
      feed.AsksUntil now deadline ->
      Buffer.Taking feed.buffer now deadline (.released blocks) rest ->
      Polling feed now (some (.batch (feed.batchOf blocks)))
        (feed.handedOut now (.batch (feed.batchOf blocks)) .idle rest)
  | ended (deadline : Option Instant) (rest : Buffer Block) :
      feed.AsksUntil now deadline ->
      Buffer.Taking feed.buffer now deadline .ended rest ->
      Polling feed now (some .ended) (feed.handedOut now .ended .over rest)
  | failed (deadline : Option Instant) (fault : Fault) (rest : Buffer Block) :
      feed.AsksUntil now deadline ->
      Buffer.Taking feed.buffer now deadline (.failed fault) rest ->
      Polling feed now (some (.failed fault)) (feed.handedOut now (.failed fault) .warned rest)
  | overflowed (deadline : Option Instant) (rest : Buffer Block) :
      feed.AsksUntil now deadline ->
      Buffer.Taking feed.buffer now deadline .overflow rest ->
      Polling feed now (some .overflow) (feed.handedOut now .overflow .over rest)
  | waited (deadline wake : Option Instant) (rest : Buffer Block) :
      feed.AsksUntil now deadline ->
      Buffer.Taking feed.buffer now deadline (.waiting wake) rest ->
      Polling feed now none
        { feed with buffer := rest, consumer := .waiting deadline wake }
  | warned :
      feed.consumer = .warned ->
      Polling feed now (some .ended) (feed.handedOut now .ended .over feed.buffer)
  | silent :
      feed.consumer = .over ∨ feed.consumer = .gone ->
      Polling feed now none feed

/-- A look is of one of six kinds. -/
theorem polling_look
    {feed : Feed} {now : Instant} {deadline : Option Instant}
    (asks : feed.AsksUntil now deadline) :
    feed.Polling now (feed.look now deadline).1 (feed.look now deadline).2 := by
  have taking := Buffer.taking_take feed.buffer now deadline
  unfold look
  generalize taken : feed.buffer.take now deadline = pair at taking
  obtain ⟨result, rest⟩ := pair
  cases result with
  | released blocks => exact .took deadline blocks rest asks taking
  | ended => exact .ended deadline rest asks taking
  | failed fault => exact .failed deadline fault rest asks taking
  | waiting wake => exact .waited deadline wake rest asks taking
  | overflow => exact .overflowed deadline rest asks taking

/-- Asking for a batch is of one of these kinds. -/
theorem polling_poll (feed : Feed) (now : Instant) :
    feed.Polling now (feed.poll now).1 (feed.poll now).2 := by
  unfold poll
  cases consumer : feed.consumer with
  | idle =>
      cases patience : feed.buffer.patienceDeadline now with
      | ok deadline => exact polling_look (.inl ⟨consumer, patience⟩)
      | error problem => exact .unrepresentable problem consumer patience
  | waiting deadline wake => exact polling_look (.inr ⟨wake, consumer⟩)
  | warned => exact .warned consumer
  | gone => exact .silent (.inr consumer)
  | _ => exact .silent (.inl consumer)

end Feed
end BlockFeed
