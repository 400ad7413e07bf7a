import BlockFeed.Proofs.Feed.Backpressure
import BlockFeed.Proofs.Feed.Replies
import Mathlib.Data.List.DropRight

/-!
# Nothing waits for the next body

The loop hints at the end of every body, so that the release of what is pending is due
from then on. It puts nothing into the buffer before the next body has been opened, and
neither a take that is still waiting nor the loop takes a hint back. So between two bodies
there is no unit, or a take gets the whole of it at once, however great the least size of
a unit is and whether or not there are timers.

What has been gathered then contains the blocks of every body that has been read to its
end, which is read off the log: it holds the queries that were posted before the end of a
body.
-/

namespace BlockFeed
namespace Buffer

/-! ## Units whose release is due -/

/-- A unit has been filled since the last release. -/
def IsFilled (buffer : Buffer α) : Prop :=
  buffer.pending.isSome = true -> buffer.filled = true

/-- As long as the buffer is running, the release of its unit is due. -/
def IsPrompt (buffer : Buffer α) : Prop :=
  buffer.phase = .running -> buffer.pending.isSome = true -> buffer.due = true

/-- A timer of a take that begins at an instant would fire only after the clock has ended. -/
def Overshoots (buffer : Buffer α) (began : Instant) : Prop :=
  Instant.Overshoots began buffer.config.patience ∨ buffer.IdleOvershoots

/-- A take gets the whole unit at once, at any instant and for a consumer who would wait
until any other. Only an idle timer that overshoots makes it end otherwise. -/
def HandsOverAtOnce (buffer : Buffer α) : Prop :=
  ∀ unit, buffer.pending = some unit -> ∀ now deadline,
    (∃ rest, buffer.take now deadline = (.released unit.blocks, rest) ∧
        rest.pending = none) ∨
      (buffer.take now deadline = (.overflow, buffer) ∧ buffer.IdleOvershoots)

variable {buffer later rest : Buffer α} {now : Instant} {deadline : Option Instant}
  {result : Take α}

theorem phase_close_ne_running (buffer : Buffer α) : buffer.close.phase ≠ .running := by
  cases phase : buffer.phase <;> simp [close, phase]

theorem phase_fail_ne_running (buffer : Buffer α) (fault : Fault) :
    (buffer.fail fault).phase ≠ .running := by
  by_cases running : buffer.phase = .running
  · rw [fail_of_running running]
    exact endedBy_ne_running fault
  · rwa [fail_of_ended running]

theorem IsFilled.fed (isFilled : buffer.IsFilled) (fed : buffer.Fed now later) :
    later.IsFilled := by
  induction fed with
  | same => exact isFilled
  | grown => exact fun _ => rfl
  | hint _ inductionHypothesis => exact inductionHypothesis
  | close _ inductionHypothesis => simpa [IsFilled] using inductionHypothesis
  | fail fault _ inductionHypothesis => simpa [IsFilled] using inductionHypothesis

theorem IsFilled.taking
    (isFilled : buffer.IsFilled)
    (taking : Taking buffer now deadline result rest) :
    rest.IsFilled := by
  cases taking with
  | overflow => exact isFilled
  | waiting => exact isFilled
  | _ => exact nofun

theorem isPrompt_of_ended (ended : buffer.phase ≠ .running) : buffer.IsPrompt :=
  fun running => absurd running ended

/-- A hint makes the release of every unit due. -/
theorem isPrompt_hint (buffer : Buffer α) : buffer.hint.IsPrompt := by
  intro _ pending
  have pendingBefore : buffer.pending.isSome = true := pending
  simp [hint, pendingBefore]

/-- No take makes a release that is due wait. -/
theorem IsPrompt.taking
    (isPrompt : buffer.IsPrompt)
    (taking : Taking buffer now deadline result rest) :
    rest.IsPrompt := by
  cases taking with
  | overflow => exact isPrompt
  | waiting =>
      intro running pending
      simp [noticed, isPrompt running pending]
  | _ =>
      -- Nothing is left pending.
      intro _ pending
      cases pending

/-- What a take of a unit that is due gives, and leaves behind. -/
theorem Taking.of_prompt
    {unit : Pending α}
    (taking : Taking buffer now deadline result rest)
    (isPrompt : buffer.IsPrompt)
    (isFilled : buffer.IsFilled)
    (notFailed : ∀ report, buffer.phase ≠ .failed report)
    (pending : buffer.pending = some unit) :
    (result = .released unit.blocks ∧ rest.pending = none) ∨
      (result = .overflow ∧ rest = buffer ∧ buffer.IdleOvershoots) := by
  cases taking with
  | reported _ failed => exact absurd failed (notFailed _)
  | silent failed => exact absurd failed (notFailed _)
  | remainder given _ isGiven =>
      obtain rfl : given = unit := Option.some.inj (isGiven.symm.trans pending)
      exact .inl ⟨rfl, rfl⟩
  | ended _ none => exact absurd (none.symm.trans pending) nofun
  | overflow problem _ beyond => exact .inr ⟨rfl, rfl, idleOvershoots_of_error beyond⟩
  | release given _ _ isGiven =>
      obtain rfl : given = unit := Option.some.inj (isGiven.symm.trans pending)
      exact .inl ⟨rfl, rfl⟩
  | waiting idle running _ notDue =>
      have present : buffer.pending.isSome = true := by rw [pending]; rfl
      have due : (buffer.noticed now deadline idle).due = true := by
        simp [noticed, isPrompt running present]
      exact absurd ⟨due, isFilled present⟩ (notDue present)

theorem IsPrompt.handsOverAtOnce
    (isPrompt : buffer.IsPrompt)
    (isFilled : buffer.IsFilled)
    (notFailed : ∀ report, buffer.phase ≠ .failed report) :
    buffer.HandsOverAtOnce := by
  intro unit pending now deadline
  have taking := taking_take buffer now deadline
  generalize buffer.take now deadline = taken at taking
  obtain ⟨result, rest⟩ := taken
  rcases taking.of_prompt isPrompt isFilled notFailed pending with
    ⟨released, nothing⟩ | ⟨overflow, same, beyond⟩
  · exact .inl ⟨rest, Prod.ext released rfl, nothing⟩
  · exact .inr ⟨Prod.ext overflow same, beyond⟩

/-- A producer takes nothing back. -/
theorem Fed.pendingBlocks_isPrefix (fed : buffer.Fed now later) :
    buffer.pendingBlocks <+: later.pendingBlocks := by
  induction fed with
  | same => exact List.prefix_rfl
  | grown _ _ _ _ _ inductionHypothesis =>
      exact inductionHypothesis.trans (List.prefix_append _ _)
  | hint _ inductionHypothesis => exact inductionHypothesis
  | close _ inductionHypothesis => simpa using inductionHypothesis
  | fail fault _ inductionHypothesis => simpa using inductionHypothesis

end Buffer

namespace Feed

variable {feed next : Feed} {now : Instant} {cancelled : Bool}

/-! ## Between two bodies -/

/-- Whether the loop stands in a body. -/
def Stage.isInBody : Stage -> Bool
  | .reading _ _ => true
  | .held _ _ => true
  | _ => false

/-- The loop stands in no body: it waits for something else, or it has ended without a
failure. -/
def IsBetweenBodies (feed : Feed) : Prop :=
  feed.stage.isInBody = false ∧ (feed.stage = .finished -> feed.buffer.phase = .closed)

/-- Unless the loop stands in a body, the release of what is pending is due. -/
def Prompt (feed : Feed) : Prop :=
  feed.stage.isInBody = false -> feed.buffer.IsPrompt

section prompt

theorem prompt_finish (feed : Feed) : feed.finish.Prompt :=
  fun _ => Buffer.isPrompt_of_ended feed.buffer.phase_close_ne_running

theorem prompt_fail (feed : Feed) (fault : Fault) : (feed.fail fault).Prompt :=
  fun _ => Buffer.isPrompt_of_ended (feed.buffer.phase_fail_ne_running fault)

theorem prompt_callOff (feed : Feed) (now : Instant) : (feed.callOff now).Prompt := by
  unfold callOff
  split <;> exact prompt_finish _

theorem prompt_atHead (isPrompt : feed.buffer.IsPrompt) : (feed.atHead now).Prompt := by
  unfold atHead
  split
  · exact feed.prompt_finish
  · exact fun _ => isPrompt

theorem prompt_endReply (feed : Feed) (now : Instant) (origin cursor : UInt64) :
    (feed.endReply now origin cursor).Prompt := by
  unfold endReply
  split
  · exact prompt_atHead feed.buffer.isPrompt_hint
  · exact fun _ => feed.buffer.isPrompt_hint

theorem prompt_continueReading (feed : Feed) (now : Instant) (reading : Reading) :
    (feed.continueReading now reading).Prompt := by
  unfold continueReading
  split
  · exact feed.prompt_endReply now _ _
  · exact nofun

theorem Handing.prompt
    {reading : Reading} {lines : List Bytes}
    (handing : feed.Handing now reading lines next) :
    next.Prompt := by
  cases handing with
  | spoiled fault => exact prompt_fail _ fault
  | blank => exact feed.prompt_continueReading now reading
  | added => exact prompt_continueReading _ now _
  | filled => exact nofun
  | discarded => exact feed.prompt_continueReading now _

/-- Every step of the loop that leads out of a body makes a release due, and no other step
puts anything into the buffer. -/
theorem Prompt.proceed (prompt : feed.Prompt) (proceeding : feed.Proceeding now cancelled next) :
    next.Prompt := by
  cases proceeding with
  | overreached => exact feed.prompt_finish
  | calledOff => exact feed.prompt_callOff now
  | recalled _ turning => exact fun _ => prompt (by rw [turning]; rfl)
  | asked turning => exact fun _ => prompt (by rw [turning]; rfl)
  | learned _ _ _ asking => exact fun _ => prompt (by rw [asking]; rfl)
  | unlearned _ _ fault => exact feed.prompt_fail fault
  | posted _ resolved => exact fun _ => prompt (by rw [resolved]; rfl)
  | opened => exact nofun
  | bodiless => exact prompt_endReply _ now _ _
  | nothing _ _ _ reply posting =>
      refine prompt_atHead ?_
      rw [buffer_decline]
      exact prompt (by rw [posting]; rfl)
  | refused => exact prompt_fail _ _
  | unanswered _ _ _ fault => exact feed.prompt_fail fault
  | exhausted _ _ _ _ _ _ handing => exact handing.prompt
  | received _ _ _ _ _ _ _ _ _ _ handing => exact handing.prompt
  | broke _ _ _ fault => exact prompt_fail _ fault
  | crashed => exact prompt_fail _ breakdown
  | admitted _ reading => exact feed.prompt_continueReading now reading
  | resumed _ pausing => exact fun _ => prompt (by rw [pausing]; rfl)

theorem Prompt.poll
    {result : Option Yield}
    (prompt : feed.Prompt)
    (polling : feed.Polling now result next) :
    next.Prompt := by
  intro outside
  rw [polling.looking.stage] at outside
  rcases polling.buffer with same | ⟨_, _, taking⟩
  · rw [same]
    exact prompt outside
  · exact (prompt outside).taking taking

end prompt

/-! ## What has been read to its end -/

/-- Whether a body was given back at its end. -/
def Event.isBodyEnd : Event -> Bool
  | .released exhausted => exhausted
  | _ => false

/-- How many queries had been posted when the end of a body was reached last. -/
def readThrough (feed : Feed) : Nat :=
  ((feed.log.rdropWhile (!·.event.isBodyEnd)).filterMap (·.event.post?)).length

/-- The blocks of all bodies that have been read to their end. -/
def readOut (feed : Feed) : List Block :=
  (feed.answers.take feed.readThrough).flatMap Answer.blocks

/-- Unless the buffer has failed, the blocks of all bodies that have been read to their end
have been gathered. -/
def Secured (feed : Feed) : Prop :=
  (∀ report, feed.buffer.phase ≠ .failed report) -> feed.readOut <+: feed.gathered

theorem readThrough_of_log (log : next.log = feed.log) :
    next.readThrough = feed.readThrough := by
  rw [readThrough, log, readThrough]

theorem readThrough_record
    {event : Event}
    (goesOn : event.isBodyEnd = false)
    (feed : Feed) (now : Instant) :
    (feed.record now event).readThrough = feed.readThrough := by
  rw [readThrough, record, List.rdropWhile_concat_pos _ _ _ (by simp [goesOn]), readThrough]

theorem readThrough_le (feed : Feed) : feed.readThrough ≤ feed.answers.length := by
  have within := (List.rdropWhile_prefix (fun entry : Entry => !entry.event.isBodyEnd)
    (l := feed.log)).sublist.filterMap (·.event.post?)
  simpa [readThrough, answers, posts] using within.length_le

section readThrough

variable (feed) (now)

@[simp] theorem readThrough_abandon : (feed.abandon now).readThrough = feed.readThrough :=
  readThrough_record rfl feed now

@[simp] theorem readThrough_decline (reply : Reply) :
    (feed.decline now reply).readThrough = feed.readThrough := by
  unfold decline
  split
  · exact feed.readThrough_abandon now
  · rfl

@[simp] theorem readThrough_callOff : (feed.callOff now).readThrough = feed.readThrough := by
  unfold callOff
  split
  · exact feed.readThrough_abandon now
  · rfl

end readThrough

theorem Handing.readThrough
    {reading : Reading} {lines : List Bytes}
    (handing : feed.Handing now reading lines next) :
    next.readThrough = feed.readThrough := by
  cases handing with
  | spoiled fault =>
      split
      · exact readThrough_of_log rfl
      · exact feed.readThrough_abandon now
  | blank => exact readThrough_of_log (feed.log_continueReading now reading)
  | added => exact readThrough_of_log (log_continueReading _ now _)
  | filled => exact readThrough_of_log rfl
  | discarded => exact readThrough_of_log (feed.log_continueReading now _)

@[simp] theorem gathered_continueReading (feed : Feed) (now : Instant) (reading : Reading) :
    (feed.continueReading now reading).gathered = feed.gathered := by
  rw [gathered, delivered, batches, (feed.working_continueReading now reading).yields,
    Buffer.pendingBlocks, pending_continueReading]
  rfl

/-- The blocks in a group of lines are gathered, unless one of the lines is no block. -/
theorem Handing.gathered
    {reading : Reading} {lines : List Bytes}
    (handing : feed.Handing now reading lines next)
    (running : feed.buffer.phase = .running) :
    (∃ report, next.buffer.phase = .failed report) ∨
      next.gathered = feed.gathered ++ Ndjson.readable lines := by
  cases handing with
  | spoiled fault spoiled =>
      have isFailure : Buffer.endedBy fault = .failed (some fault) := by
        simp [Buffer.endedBy, Ndjson.isCancelled_of_portion spoiled]
      refine .inl ⟨some fault, ?_⟩
      split <;> exact (congrArg Buffer.phase (Buffer.fail_of_running running fault)).trans isFailure
  | blank part read empty =>
      rw [gathered_continueReading, Ndjson.blocks_of_portion read, empty, List.append_nil]
      exact .inr rfl
  | added part read =>
      rw [gathered_continueReading, Ndjson.blocks_of_portion read]
      exact .inr (List.append_assoc _ _ _).symm
  | filled part read =>
      rw [Ndjson.blocks_of_portion read]
      exact .inr (List.append_assoc _ _ _).symm
  | discarded _ _ _ ended => exact absurd running ended

/-- A body is read to its end by the step that gathers the last of its blocks. -/
theorem Proceeding.readThrough
    (proceeding : feed.Proceeding now cancelled next)
    (conserves : feed.Conserves cancelled) :
    next.readThrough = feed.readThrough ∨ (∃ report, next.buffer.phase = .failed report) ∨
      next.gathered = next.produced := by
  cases proceeding with
  | calledOff => exact .inl (feed.readThrough_callOff now)
  | asked => exact .inl (readThrough_record rfl feed now)
  | posted => exact .inl (readThrough_record rfl feed now)
  | bodiless => exact .inl (readThrough_of_log (log_endReply _ now _ _))
  | nothing _ _ _ reply =>
      exact .inl ((readThrough_of_log (log_atHead _ now)).trans (feed.readThrough_decline now reply))
  | refused _ _ _ reply => exact .inl (feed.readThrough_decline now reply)
  | exhausted since reading next stage _ atEnd handing =>
      simp only [Conserves, stage] at conserves
      obtain ⟨underway, reads, notExhausted⟩ := conserves
      have agrees := feed.agrees_record now (.released true) rfl rfl
      refine .inr ((handing.gathered underway.running).imp id fun gathered => ?_)
      rw [gathered, handing.working.produced, agrees.gathered, agrees.produced,
        ← underway.whole, Reading.ahead_of_end reads.clean notExhausted atEnd]
  | received _ _ _ _ _ _ _ _ _ _ handing =>
      exact .inl (handing.readThrough.trans (readThrough_record rfl feed now))
  | broke =>
      exact .inl ((readThrough_abandon _ now).trans (readThrough_record rfl feed now))
  | crashed => exact .inl (feed.readThrough_abandon now)
  | admitted _ reading => exact .inl (readThrough_of_log (feed.log_continueReading now reading))
  | _ => exact .inl rfl

/-- The loop only gathers more blocks. -/
theorem Feeding.gathered_isPrefix (feeding : feed.Feeding now next) :
    feed.gathered <+: next.gathered := by
  rw [gathered, gathered, delivered, delivered, batches, batches, feeding.yields]
  exact (List.prefix_append_right_inj _).mpr feeding.buffer.pendingBlocks_isPrefix

/-- The loop only adds to the queries that have been posted. -/
theorem Proceeding.answers_isPrefix (proceeding : feed.Proceeding now cancelled next) :
    feed.answers <+: next.answers := by
  rcases proceeding.working_or_post with working | ⟨tip, _, rfl⟩
  · exact ⟨[], (List.append_nil _).trans working.answers.symm⟩
  · have answers : (feed.post now false tip).answers = feed.answers ++ _ :=
      answers_of_posts_append rfl (feed.posts_post now tip)
    rw [answers]
    exact List.prefix_append _ _

theorem readOut_isPrefix_produced (feed : Feed) : feed.readOut <+: feed.produced := by
  obtain ⟨later, whole⟩ := List.take_prefix feed.readThrough feed.answers
  refine ⟨later.flatMap Answer.blocks, ?_⟩
  rw [readOut, ← List.flatMap_append, whole, produced]

/-- Every step of the loop keeps the blocks of the bodies that have been read. -/
theorem Secured.proceed
    (secured : feed.Secured)
    (conserves : feed.Conserves cancelled)
    (proceeding : feed.Proceeding now cancelled next) :
    next.Secured := by
  intro notFailed
  rcases proceeding.readThrough conserves with same | ⟨report, failed⟩ | whole
  · have running := conserves.running proceeding.unfinished
    have readOut : next.readOut = feed.readOut := by
      obtain ⟨later, whole⟩ := proceeding.answers_isPrefix
      rw [Feed.readOut, same, ← whole, List.take_append_of_le_length feed.readThrough_le]
      rfl
    rw [readOut]
    exact (secured (by simp [running])).trans proceeding.feeding.gathered_isPrefix
  · exact absurd failed (notFailed report)
  · rw [whole]
    exact next.readOut_isPrefix_produced

theorem Polling.readThrough
    {result : Option Yield}
    (polling : feed.Polling now result next) :
    next.readThrough = feed.readThrough := by
  cases polling with
  | waited => rfl
  | silent => rfl
  | _ => exact readThrough_record rfl feed now

/-- The consumer loses none of the blocks of the bodies that have been read. -/
theorem Secured.look
    (secured : feed.Secured)
    (looking : feed.Looking next)
    (moves : feed.Moves next)
    (readThrough : next.readThrough = feed.readThrough) :
    next.Secured := by
  intro notFailed
  rcases moves with ⟨phase, gathered⟩ | ⟨_, failed, _⟩
  · rw [readOut, looking.answers, readThrough, gathered]
    exact secured (phase ▸ notFailed)
  · exact absurd failed (notFailed none)

/-! ## At all times -/

/-- What is pending is on its way to the consumer. -/
structure Forthcoming (feed : Feed) (cancelled : Bool) : Prop where
  conserves : feed.Conserves cancelled
  filled : feed.buffer.IsFilled
  prompt : feed.Prompt
  secured : feed.Secured

theorem forthcoming_invariant :
    Fleet.Invariant fun feed _ cancelled => feed.Forthcoming cancelled where
  opened client portal query options now :=
    { conserves := conserves_invariant.opened client portal query options now
      filled := nofun
      prompt := nofun
      secured := fun _ => List.prefix_rfl }
  proceeds forthcoming proceeding :=
    { conserves := forthcoming.conserves.proceed proceeding
      filled := forthcoming.filled.fed proceeding.feeding.buffer
      prompt := forthcoming.prompt.proceed proceeding
      secured := forthcoming.secured.proceed forthcoming.conserves proceeding }
  polls {feed now cancelled result next} forthcoming polling :=
    { conserves := forthcoming.conserves.look polling.looking polling.moves
      filled := by
        rcases polling.buffer with same | ⟨_, _, taking⟩
        · rw [same]
          exact forthcoming.filled
        · exact forthcoming.filled.taking taking
      prompt := forthcoming.prompt.poll polling
      secured := forthcoming.secured.look polling.looking polling.moves polling.readThrough }
  leaves forthcoming :=
    { conserves := forthcoming.conserves.look looking_leave (.inl ⟨rfl, rfl⟩)
      filled := forthcoming.filled
      prompt := forthcoming.prompt
      secured := forthcoming.secured.look looking_leave (.inl ⟨rfl, rfl⟩) rfl }
  calledOff forthcoming :=
    ⟨forthcoming.conserves.calledOff, forthcoming.filled, forthcoming.prompt, forthcoming.secured⟩
  later _ forthcoming := forthcoming

theorem Conserves.not_failed
    (conserves : feed.Conserves cancelled)
    (between : feed.IsBetweenBodies) :
    ∀ report, feed.buffer.phase ≠ .failed report := by
  intro report failed
  by_cases finished : feed.stage = .finished
  · exact absurd ((between.2 finished).symm.trans failed) nofun
  · exact absurd ((conserves.running finished).symm.trans failed) nofun

/-- Whether the consumer asks for batches, or may still do so. -/
def Consumer.mayAsk : Consumer -> Bool
  | .idle => true
  | .waiting _ _ => true
  | _ => false

/-- A consumer who asks between two bodies gets all that has been gathered. -/
theorem Forthcoming.poll
    (forthcoming : feed.Forthcoming cancelled)
    (between : feed.IsBetweenBodies)
    (mayAsk : feed.consumer.mayAsk = true)
    {unit : Buffer.Pending Block}
    (pending : feed.buffer.pending = some unit)
    {result : Option Yield}
    (polling : feed.Polling now result next) :
    (result = some (.batch (feed.batchOf unit.blocks)) ∧ next.delivered = feed.gathered ∧
        next.buffer.pending = none) ∨
      (result = some .overflow ∧ feed.buffer.Overshoots now) := by
  have whole : ∀ {deadline taken rest}, Buffer.Taking feed.buffer now deadline taken rest ->
      (taken = .released unit.blocks ∧ rest.pending = none) ∨
        (taken = .overflow ∧ rest = feed.buffer ∧ feed.buffer.IdleOvershoots) :=
    fun taking => taking.of_prompt (forthcoming.prompt between.1) forthcoming.filled
      (forthcoming.conserves.not_failed between) pending
  cases polling with
  | unrepresentable problem _ beyond =>
      exact .inr ⟨rfl, .inl (Instant.overshoots_iff.mpr ⟨problem, beyond⟩)⟩
  | took deadline blocks rest _ taking =>
      rcases whole taking with ⟨released, nothing⟩ | ⟨overflow, _⟩
      · obtain rfl : blocks = unit.blocks := Buffer.Take.released.inj released
        refine .inl ⟨rfl, ?_, nothing⟩
        rw [delivered_handedOut, gathered, Buffer.pendingBlocks_of_pending pending]
        rfl
      · cases overflow
  | ended _ _ _ taking => rcases whole taking with ⟨released, _⟩ | ⟨overflow, _⟩ <;> contradiction
  | failed _ _ _ _ taking =>
      rcases whole taking with ⟨released, _⟩ | ⟨overflow, _⟩ <;> contradiction
  | overflowed _ _ _ taking =>
      rcases whole taking with ⟨released, _⟩ | ⟨_, _, beyond⟩
      · cases released
      · exact .inr ⟨rfl, .inr beyond⟩
  | waited _ _ _ _ taking =>
      rcases whole taking with ⟨released, _⟩ | ⟨overflow, _⟩ <;> contradiction
  | warned isWarned => simp [isWarned, Consumer.mayAsk] at mayAsk
  | silent isSilent => rcases isSilent with isOver | isGone <;> simp_all [Consumer.mayAsk]

end Feed

namespace Fleet

/-- At every moment of every run at which the loop of a feed stands in no body, and has not
ended by a failure, a take gets all that is pending at once, and so does a consumer who
asks or is waiting. The consumer has then got the blocks of all bodies that have been read
to their end. Only a timer that overshoots makes a take end otherwise. -/
theorem nothing_waits_between_bodies (tokens : Tokens) (actions : List Action) :
    let fleet := (create tokens).run actions
    ∀ member ∈ fleet.members,
      let feed := member.feed
      feed.IsBetweenBodies ->
        feed.buffer.HandsOverAtOnce ∧ feed.readOut <+: feed.gathered ∧
        ∀ now unit, feed.consumer.mayAsk = true -> feed.buffer.pending = some unit ->
          let (result, next) := feed.poll now
          (result = some (.batch (feed.batchOf unit.blocks)) ∧
              next.delivered = feed.gathered ∧ next.buffer.pending = none) ∨
            (result = some .overflow ∧ feed.buffer.Overshoots now) := by
  intro fleet member mem feed between
  have forthcoming := Feed.forthcoming_invariant.run tokens actions member mem
  have notFailed := forthcoming.conserves.not_failed between
  refine ⟨?_, forthcoming.secured notFailed, ?_⟩
  · exact (forthcoming.prompt between.1).handsOverAtOnce forthcoming.filled notFailed
  · intro now unit mayAsk pending
    exact forthcoming.poll between mayAsk pending (Feed.polling_poll feed now)

/-- A unit far below the least size is taken while the second reply is a second away,
although the buffer has no timers. -/
theorem nothing_waits_between_bodies_without_timers :
    let line := Bytes.ofString "\x7b\"header\":\x7b\"number\":1\x7d\x7d"
    let portal := Portal.scripted [⟨0, .ok "100"⟩]
      [⟨0, .ok ⟨200, some [⟨0, .data line⟩]⟩⟩,
        ⟨Duration.ofSeconds 1, .ok ⟨200, some [⟨0, .data line⟩]⟩⟩]
    let options : StreamOptions := { minBytes := Nat.pow 10 30, maxIdle := none, maxWait := none }
    let fleet := (create .empty).run <|
      .opened ⟨"", "", {}⟩ portal (.ofSelection (.empty .evm)) options ::
        List.replicate 9 (.proceed 0)
    ∃ member unit, fleet.members[0]? = some member ∧ member.feed.IsBetweenBodies ∧
      member.feed.alarm? = some (fleet.now + Duration.ofSeconds 1) ∧
      member.feed.buffer.pending = some unit ∧ unit.blocks.map Block.number = [1] ∧
      member.feed.readThrough = 1 ∧
      (member.feed.poll fleet.now).1 = some (.batch (member.feed.batchOf unit.blocks)) ∧
      member.feed.readOut <+: (member.feed.poll fleet.now).2.delivered := by
  intro line portal options fleet
  have shape : fleet.members.map (fun member =>
      (!member.feed.stage.isInBody && member.feed.consumer.mayAsk, member.feed.alarm?,
        member.feed.buffer.config, member.feed.buffer.pendingBlocks.map Block.number,
        member.feed.readThrough)) =
        [(true, some (fleet.now + Duration.ofSeconds 1), options.buffer, [1], 1)] := by
    decide +kernel
  obtain ⟨member, found, seen⟩ := exists_of_observed shape
  simp only [Prod.mk.injEq, Bool.and_eq_true, Bool.not_eq_true'] at seen
  obtain ⟨⟨outside, mayAsk⟩, alarm, config, numbers, through⟩ := seen
  have between : member.feed.IsBetweenBodies := by
    refine ⟨outside, fun finished => ?_⟩
    simp [Feed.alarm?, finished] at alarm
  obtain ⟨unit, pending⟩ : ∃ unit, member.feed.buffer.pending = some unit := by
    refine Option.ne_none_iff_exists'.mp fun none => ?_
    simp [Buffer.pendingBlocks_of_none none] at numbers
  obtain ⟨_, secured, polls⟩ :=
    nothing_waits_between_bodies .empty _ member (List.mem_of_getElem? found) between
  rw [Buffer.pendingBlocks_of_pending pending] at numbers
  rcases polls fleet.now unit mayAsk pending with
    ⟨batch, delivered, _⟩ | ⟨_, beyond⟩
  · exact ⟨member, unit, found, between, alarm, pending, numbers, through, batch,
      delivered ▸ secured⟩
  · rcases beyond with ⟨_, isPatience, _⟩ | ⟨_, _, _, isIdle, _⟩
    · cases (congrArg Buffer.Config.patience config).symm.trans isPatience
    · cases (congrArg Buffer.Config.idle config).symm.trans isIdle

/-- The second reply is a second away, and the consumer would wait for the longest time that
there is: it overflows, and the unit of the first body stays behind. Without a limit of its
own it gets the unit at once. -/
theorem longest_wait_holds_back_tail :
    let longest : Duration := Duration.ofSeconds (Nat.pow 2 64 - 1) + 999999999
    let line := Bytes.ofString "\x7b\"header\":\x7b\"number\":1\x7d\x7d"
    let portal := Portal.scripted [⟨0, .ok "100"⟩]
      [⟨0, .ok ⟨200, some [⟨0, .data line⟩]⟩⟩,
        ⟨Duration.ofSeconds 1, .ok ⟨200, some [⟨0, .data line⟩]⟩⟩]
    let final := fun patience : Option Duration =>
      (create .empty).run
        (.opened ⟨"", "", {}⟩ portal (.ofSelection (.empty .evm)) { maxWait := patience } ::
          List.replicate 9 (.proceed 0) ++ [.poll 0])
    let observe := fun member : Member =>
      (member.feed.stage.isInBody, member.feed.yields == [.overflow],
        member.feed.buffer.pendingBlocks.map Block.number, member.feed.delivered.map Block.number)
    (final (some longest)).members.map observe = [(false, true, [1], [])] ∧
      (final none).members.map observe = [(false, false, [], [1])] := by
  decide +kernel

end Fleet
end BlockFeed
