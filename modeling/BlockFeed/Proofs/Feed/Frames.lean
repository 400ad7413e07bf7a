import BlockFeed.Proofs.Feed.Steps

/-!
# What the loop and the consumer leave to each other

The loop only feeds the buffer: it puts blocks in, hints and ends it, and it
neither takes anything out nor tells the consumer anything. The consumer only
takes: it does not touch the loop, its requests or its place.
-/

namespace BlockFeed
namespace Buffer

/-- What a producer may make of a buffer at an instant. -/
inductive Fed (buffer : Buffer α) (now : Instant) : Buffer α -> Prop
  | same : Fed buffer now buffer
  | grown {later : Buffer α} (blocks : List α) (bytes : Nat) :
      Fed buffer now later ->
      later.phase = .running ->
      blocks ≠ [] ->
      Fed buffer now (later.grown now blocks bytes)
  | hint {later : Buffer α} : Fed buffer now later -> Fed buffer now later.hint
  | close {later : Buffer α} : Fed buffer now later -> Fed buffer now later.close
  | fail {later : Buffer α} (fault : Fault) :
      Fed buffer now later -> Fed buffer now (later.fail fault)

namespace Fed

variable {buffer middle later : Buffer α} {now : Instant}

theorem trans (first : buffer.Fed now middle) (second : middle.Fed now later) :
    buffer.Fed now later := by
  induction second with
  | same => exact first
  | grown blocks bytes _ running someBlocks inductionHypothesis =>
      exact inductionHypothesis.grown blocks bytes running someBlocks
  | hint _ inductionHypothesis => exact inductionHypothesis.hint
  | close _ inductionHypothesis => exact inductionHypothesis.close
  | fail fault _ inductionHypothesis => exact inductionHypothesis.fail fault

/-- A producer changes nothing of a buffer that has ended but its flags. -/
theorem of_ended (fed : buffer.Fed now later) (ended : buffer.phase ≠ .running) :
    later.phase = buffer.phase ∧ later.pending = buffer.pending := by
  induction fed with
  | same => exact ⟨rfl, rfl⟩
  | grown _ _ _ running _ inductionHypothesis =>
      exact absurd (inductionHypothesis.1.symm.trans running) ended
  | hint _ inductionHypothesis => exact inductionHypothesis
  | close _ inductionHypothesis =>
      rw [close_of_ended (by rw [inductionHypothesis.1]; exact ended)]
      exact inductionHypothesis
  | fail fault _ inductionHypothesis =>
      rw [fail_of_ended (by rw [inductionHypothesis.1]; exact ended)]
      exact inductionHypothesis

/-- No producer reports a fault. -/
theorem reported (fed : buffer.Fed now later) (isReported : later.phase = .failed none) :
    buffer.phase = .failed none := by
  by_cases running : buffer.phase = .running
  · exfalso
    induction fed with
    | same => simp [running] at isReported
    | grown _ _ _ stillRunning => simp [stillRunning] at isReported
    | hint _ inductionHypothesis => exact inductionHypothesis isReported
    | @close before _ inductionHypothesis =>
        by_cases stillRunning : before.phase = .running
        · simp [close_of_running stillRunning] at isReported
        · rw [close_of_ended stillRunning] at isReported
          exact inductionHypothesis isReported
    | @fail before fault _ inductionHypothesis =>
        by_cases stillRunning : before.phase = .running
        · rw [fail_of_running stillRunning] at isReported
          exact endedBy_ne_reported fault isReported
        · rw [fail_of_ended stillRunning] at isReported
          exact inductionHypothesis isReported
  · rw [← (fed.of_ended running).1, isReported]

/-- A producer never leaves a unit without blocks. -/
theorem unit_ne_nil
    (fed : buffer.Fed now later)
    (before : ∀ unit, buffer.pending = some unit -> unit.blocks ≠ []) :
    ∀ unit, later.pending = some unit -> unit.blocks ≠ [] := by
  induction fed with
  | same => exact before
  | grown blocks bytes _ _ someBlocks _ =>
      intro unit pending
      rw [← Option.some.inj pending]
      simp [extended, someBlocks]
  | hint _ inductionHypothesis => exact inductionHypothesis
  | @close middle _ inductionHypothesis =>
      by_cases running : middle.phase = .running
      · rw [close_of_running running]
        exact inductionHypothesis
      · rw [close_of_ended running]
        exact inductionHypothesis
  | @fail middle fault _ inductionHypothesis =>
      by_cases running : middle.phase = .running
      · rw [fail_of_running running]
        exact inductionHypothesis
      · rw [fail_of_ended running]
        exact inductionHypothesis

/-- A producer neither changes the configuration nor releases anything. -/
theorem config_and_releases (fed : buffer.Fed now later) :
    later.config = buffer.config ∧ later.releases = buffer.releases := by
  induction fed with
  | same => exact ⟨rfl, rfl⟩
  | grown _ _ _ _ _ inductionHypothesis => exact inductionHypothesis
  | hint _ inductionHypothesis => exact inductionHypothesis
  | close _ inductionHypothesis => simpa using inductionHypothesis
  | fail fault _ inductionHypothesis => simpa using inductionHypothesis

/-- Whatever a producer puts into a buffer, it puts there now. -/
theorem lastPut (fed : buffer.Fed now later) :
    later.lastPut = buffer.lastPut ∨ later.lastPut = some now := by
  induction fed with
  | same => exact .inl rfl
  | grown => exact .inr rfl
  | hint _ inductionHypothesis => exact inductionHypothesis
  | close _ inductionHypothesis => simpa using inductionHypothesis
  | fail fault _ inductionHypothesis => simpa using inductionHypothesis

end Fed

/-- The blocks that a take gets. -/
def Take.blocks : Take α -> List α
  | .released blocks => blocks
  | _ => []

/-- A take moves blocks out of the unit, unless the buffer has failed: then it
drops the unit. -/
theorem Taking.moves
    {buffer rest : Buffer α} {now : Instant} {deadline : Option Instant} {result : Take α}
    (taking : Taking buffer now deadline result rest) :
    (rest.phase = buffer.phase ∧ result.blocks ++ rest.pendingBlocks = buffer.pendingBlocks) ∨
      ((∃ report, buffer.phase = .failed report) ∧ rest.phase = .failed none ∧
        result.blocks = [] ∧ rest.pendingBlocks = []) := by
  cases taking with
  | reported fault failed => exact .inr ⟨⟨_, failed⟩, rfl, rfl, rfl⟩
  | silent failed => exact .inr ⟨⟨_, failed⟩, rfl, rfl, rfl⟩
  | remainder unit closed pending =>
      refine .inl ⟨rfl, ?_⟩
      rw [pendingBlocks_of_pending pending]
      exact List.append_nil _
  | ended closed none =>
      refine .inl ⟨rfl, ?_⟩
      rw [pendingBlocks_of_none none]
      rfl
  | overflow => exact .inl ⟨rfl, rfl⟩
  | release unit idle running pending =>
      refine .inl ⟨rfl, ?_⟩
      rw [pendingBlocks_of_pending pending]
      exact List.append_nil _
  | waiting => exact .inl ⟨rfl, rfl⟩

end Buffer

namespace Feed

/-! ## The loop -/

/-- What the loop leaves alone at an instant. -/
structure Feeding (feed : Feed) (now : Instant) (next : Feed) : Prop where
  plan : next.plan = feed.plan
  consumer : next.consumer = feed.consumer
  yields : next.yields = feed.yields
  buffer : feed.buffer.Fed now next.buffer

/-- What the loop leaves alone at an instant unless it posts a query. -/
structure Working (feed : Feed) (now : Instant) (next : Feed) : Prop extends
    Feeding feed now next where
  posts : next.posts = feed.posts

namespace Working

variable {feed next last : Feed} {now : Instant}

/-- Nothing but the place of the loop and its buffer changes. -/
theorem of_fed
    (fed : feed.buffer.Fed now next.buffer)
    (plan : next.plan = feed.plan)
    (consumer : next.consumer = feed.consumer)
    (log : next.log = feed.log) :
    feed.Working now next where
  plan := plan
  consumer := consumer
  yields := by rw [Feed.yields, log, Feed.yields]
  buffer := fed
  posts := by rw [Feed.posts, log, Feed.posts]

theorem trans (first : feed.Working now next) (second : next.Working now last) :
    feed.Working now last where
  plan := second.plan.trans first.plan
  consumer := second.consumer.trans first.consumer
  yields := second.yields.trans first.yields
  buffer := first.buffer.trans second.buffer
  posts := second.posts.trans first.posts

/-- Without another query, the portal holds ready what it did. -/
theorem produced (working : feed.Working now next) : next.produced = feed.produced := by
  rw [Feed.produced, Feed.answers, working.posts, working.plan]
  rfl

end Working

section working

variable (feed : Feed) (now : Instant)

/-- Recording what happens at the portal leaves the consumer alone. -/
theorem working_record
    (event : Event)
    (noYield : event.yield? = none)
    (noPost : event.post? = none) :
    feed.Working now (feed.record now event) where
  plan := rfl
  consumer := rfl
  yields := by rw [yields_record, noYield]; exact List.append_nil _
  buffer := .same
  posts := by rw [posts_record, noPost]; exact List.append_nil _

theorem working_abandon : feed.Working now (feed.abandon now) :=
  feed.working_record now _ rfl rfl

theorem working_finish : feed.Working now feed.finish :=
  .of_fed (.close .same) rfl rfl rfl

theorem working_fail (fault : Fault) : feed.Working now (feed.fail fault) :=
  .of_fed (.fail fault .same) rfl rfl rfl

theorem working_callOff : feed.Working now (feed.callOff now) := by
  unfold callOff
  split
  · exact (feed.working_abandon now).trans (working_finish _ now)
  · exact feed.working_finish now

theorem working_decline (reply : Reply) : feed.Working now (feed.decline now reply) := by
  unfold decline
  split
  · exact feed.working_abandon now
  · exact .of_fed .same rfl rfl rfl

theorem working_atHead : feed.Working now (feed.atHead now) := by
  unfold atHead
  split
  · exact feed.working_finish now
  · exact .of_fed .same rfl rfl rfl

theorem working_endReply (origin cursor : UInt64) :
    feed.Working now (feed.endReply now origin cursor) := by
  have hinted : feed.Working now { feed with buffer := feed.buffer.hint } :=
    .of_fed (.hint .same) rfl rfl rfl
  unfold endReply
  split
  · exact hinted.trans (working_atHead _ now)
  · exact hinted.trans (.of_fed .same rfl rfl rfl)

theorem working_continueReading (reading : Reading) :
    feed.Working now (feed.continueReading now reading) := by
  unfold continueReading
  split
  · exact feed.working_endReply now _ _
  · exact .of_fed .same rfl rfl rfl

end working

variable {feed next : Feed} {now : Instant} {cancelled : Bool}

theorem Handing.working
    {reading : Reading} {lines : List Bytes}
    (handing : feed.Handing now reading lines next) :
    feed.Working now next := by
  cases handing with
  | spoiled fault =>
      split
      · exact feed.working_fail now fault
      · exact (feed.working_abandon now).trans (working_fail _ now fault)
  | blank => exact feed.working_continueReading now _
  | added part _ someBlocks running =>
      have grown : feed.Working now
          { feed with buffer := feed.buffer.grown now part.blocks part.bytes } :=
        .of_fed (.grown _ _ .same running someBlocks) rfl rfl rfl
      exact grown.trans (working_continueReading _ now _)
  | filled part _ someBlocks running =>
      exact .of_fed (.grown _ _ .same running someBlocks) rfl rfl rfl
  | discarded => exact feed.working_continueReading now _

/-- A step of the loop posts a query, or leaves both the consumer and the queries
alone. -/
theorem Proceeding.working_or_post (proceeding : feed.Proceeding now cancelled next) :
    feed.Working now next ∨ ∃ tip, feed.stage = .resolved tip ∧ next = feed.post now false tip := by
  cases proceeding with
  | posted tip resolved => exact .inr ⟨tip, resolved, rfl⟩
  | overreached => exact .inl (feed.working_finish now)
  | calledOff => exact .inl (feed.working_callOff now)
  | recalled => exact .inl (.of_fed .same rfl rfl rfl)
  | asked =>
      exact .inl ((feed.working_record now (.asked false) rfl rfl).trans
        (.of_fed .same rfl rfl rfl))
  | learned => exact .inl (.of_fed .same rfl rfl rfl)
  | unlearned _ _ fault => exact .inl (feed.working_fail now fault)
  | opened => exact .inl (.of_fed .same rfl rfl rfl)
  | bodiless tip =>
      have informed : feed.Working now { feed with tip := some tip } :=
        .of_fed .same rfl rfl rfl
      exact .inl (informed.trans (working_endReply _ now _ _))
  | nothing _ _ _ reply =>
      exact .inl ((feed.working_decline now reply).trans (working_atHead _ now))
  | refused _ _ _ reply =>
      exact .inl ((feed.working_decline now reply).trans (working_fail _ now _))
  | unanswered _ _ _ fault => exact .inl (feed.working_fail now fault)
  | exhausted _ _ _ _ _ _ handing =>
      exact .inl ((feed.working_record now _ rfl rfl).trans handing.working)
  | received _ _ _ _ _ _ _ _ _ _ handing =>
      exact .inl ((feed.working_record now _ rfl rfl).trans handing.working)
  | broke _ _ _ fault =>
      exact .inl (((feed.working_record now _ rfl rfl).trans (working_abandon _ now)).trans
        (working_fail _ now fault))
  | crashed =>
      exact .inl ((feed.working_abandon now).trans (working_fail _ now breakdown))
  | admitted _ reading => exact .inl (feed.working_continueReading now reading)
  | resumed => exact .inl (.of_fed .same rfl rfl rfl)

/-- The loop leaves the consumer alone and only feeds the buffer. -/
theorem Proceeding.feeding (proceeding : feed.Proceeding now cancelled next) :
    feed.Feeding now next := by
  rcases proceeding.working_or_post with working | ⟨tip, _, rfl⟩
  · exact working.toFeeding
  · exact
      { plan := rfl
        consumer := rfl
        yields := (feed.yields_record now (.posted false _)).trans (List.append_nil _)
        buffer := .same }

/-! ## The consumer -/

/-- What the consumer leaves alone. -/
structure Looking (feed next : Feed) : Prop where
  plan : next.plan = feed.plan
  stage : next.stage = feed.stage
  cursor : next.cursor = feed.cursor
  asked : next.asked = feed.asked
  posted : next.posted = feed.posted
  posts : next.posts = feed.posts
  hears : feed.HearsCancellation -> next.HearsCancellation

namespace Looking

theorem answers (looking : feed.Looking next) : next.answers = feed.answers := by
  rw [Feed.answers, looking.posts, looking.plan, Feed.answers]

theorem produced (looking : feed.Looking next) : next.produced = feed.produced := by
  rw [Feed.produced, looking.answers, Feed.produced]

end Looking

theorem looking_handedOut
    (result : Yield) (consumer : Consumer) (buffer : Buffer Block) :
    feed.Looking (feed.handedOut now result consumer buffer) where
  plan := rfl
  stage := rfl
  cursor := rfl
  asked := rfl
  posted := rfl
  posts := (feed.posts_record now (.yielded result)).trans (List.append_nil _)
  hears hearsBefore := hearsBefore.record now (.yielded result)

/-- The consumer leaves the loop alone. -/
theorem Polling.looking
    {result : Option Yield}
    (polling : feed.Polling now result next) :
    feed.Looking next := by
  cases polling with
  | waited => exact ⟨rfl, rfl, rfl, rfl, rfl, rfl, id⟩
  | silent => exact ⟨rfl, rfl, rfl, rfl, rfl, rfl, id⟩
  | _ => exact looking_handedOut _ _ _

section polling

variable {result : Option Yield}

/-- Asking for a batch leaves the buffer as it is, or as a take leaves it. -/
theorem Polling.buffer (polling : feed.Polling now result next) :
    next.buffer = feed.buffer ∨
      ∃ deadline taken, Buffer.Taking feed.buffer now deadline taken next.buffer := by
  cases polling with
  | unrepresentable => exact .inl rfl
  | warned => exact .inl rfl
  | silent => exact .inl rfl
  | took deadline _ _ _ taking => exact .inr ⟨deadline, _, taking⟩
  | ended deadline _ _ taking => exact .inr ⟨deadline, _, taking⟩
  | failed deadline _ _ _ taking => exact .inr ⟨deadline, _, taking⟩
  | overflowed deadline _ _ taking => exact .inr ⟨deadline, _, taking⟩
  | waited deadline _ _ _ taking => exact .inr ⟨deadline, _, taking⟩

theorem Polling.config (polling : feed.Polling now result next) :
    next.buffer.config = feed.buffer.config := by
  rcases polling.buffer with same | ⟨_, _, taking⟩
  · rw [same]
  · exact taking.config

theorem Polling.releases_le (polling : feed.Polling now result next) :
    feed.buffer.releases ≤ next.buffer.releases := by
  rcases polling.buffer with same | ⟨_, _, taking⟩
  · exact Nat.le_of_eq (by rw [same])
  · exact taking.releases_le

/-- The consumer leaves the unit where it is, or leaves none. -/
theorem Polling.pending (polling : feed.Polling now result next) :
    next.buffer.pending = none ∨
      (next.buffer.pending = feed.buffer.pending ∧
        next.buffer.releases = feed.buffer.releases) := by
  rcases polling.buffer with same | ⟨_, _, taking⟩
  · exact .inr (by simp [same])
  · exact taking.pending

end polling

theorem looking_leave : feed.Looking feed.leave :=
  ⟨rfl, rfl, rfl, rfl, rfl, rfl, id⟩

end Feed
end BlockFeed
