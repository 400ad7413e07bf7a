import BlockFeed.Proofs.Feed.Ending
import BlockFeed.Proofs.Ndjson.Soundness

/-!
# How far a feed reads ahead of its consumer

The groups of lines that the loop puts into its buffer are determined by the parts of
bodies in its log. As long as the loop is neither held back nor at its end, there is no
unit in the buffer or the unit is smaller than the greatest size; a loop that is held
back goes on only once the unit has been released. So a unit exceeds the greatest size
by no more than the group that was put last, and while nobody takes a full unit out,
the loop leaves its portal alone.
-/

namespace BlockFeed
namespace Buffer

/-- A producer need not be held back: there is no unit, or it is smaller than the greatest
size. -/
def HasRoom (buffer : Buffer α) : Prop :=
  buffer.pending = none ∨ buffer.pendingBytes < buffer.config.greatest

variable {buffer later rest : Buffer α}

/-- Room depends on the unit and the configuration only. -/
theorem HasRoom.congr
    (hasRoom : buffer.HasRoom)
    (pending : later.pending = buffer.pending)
    (config : later.config = buffer.config) :
    later.HasRoom := by
  rw [HasRoom, pendingBytes, pending, config]
  exact hasRoom

theorem HasRoom.taking
    {now : Instant} {deadline : Option Instant} {result : Take α}
    (hasRoom : buffer.HasRoom)
    (taking : Taking buffer now deadline result rest) :
    rest.HasRoom := by
  rcases taking.pending with none | ⟨same, _⟩
  · exact .inl none
  · exact hasRoom.congr same taking.config

end Buffer

namespace Feed

/-! ## What has been put into the buffer -/

/-- What the parts of bodies come to that have arrived so far: how the open body is split
into lines, and the portions that were put into the buffer. -/
structure Intake where
  splitter : Line.Splitter
  portions : List Ndjson.Portion

namespace Intake

/-- Before anything has arrived. -/
def start : Intake := ⟨.empty, []⟩

/-- More lines have become complete. -/
def grown (intake : Intake) (lines : List Bytes) (splitter : Line.Splitter) : Intake :=
  ⟨splitter, intake.portions ++ (Ndjson.offer? lines).toList⟩

/-- A query opens a new body, whose parts, up to and including its end, complete lines. -/
def note (intake : Intake) : Event -> Intake
  | .posted _ _ => { intake with splitter := .empty }
  | .received _ (.data chunk) =>
      intake.grown (intake.splitter.push chunk).1 (intake.splitter.push chunk).2
  | .released true => intake.grown intake.splitter.finish.1.toList intake.splitter.finish.2
  | _ => intake

end Intake

/-- What has arrived according to the log. -/
def intake (feed : Feed) : Intake :=
  feed.log.foldl (fun intake entry => intake.note entry.event) .start

/-- The portions that the loop has put into the buffer, the first one first. -/
def puts (feed : Feed) : List Ndjson.Portion := feed.intake.portions

/-- The size of the portion that was put last. -/
def lastPutBytes (feed : Feed) : Nat :=
  (feed.puts.getLast?.map Ndjson.Portion.bytes).getD 0

/-- Whether the loop asks something of the portal, or receives a part of a body. -/
def Event.isCall : Event -> Bool
  | .asked _ => true
  | .posted _ _ => true
  | .received _ _ => true
  | _ => false

/-- The calls of the loop to its portal. -/
def calls (feed : Feed) : List Entry :=
  feed.log.filter (·.event.isCall)

variable {feed next : Feed} {now : Instant} {cancelled : Bool}

theorem intake_of_log (log : next.log = feed.log) : next.intake = feed.intake := by
  rw [intake, log, intake]

@[simp] theorem intake_record (feed : Feed) (now : Instant) (event : Event) :
    (feed.record now event).intake = feed.intake.note event := by
  simp [intake, record]

@[simp] theorem intake_abandon (feed : Feed) (now : Instant) :
    (feed.abandon now).intake = feed.intake :=
  feed.intake_record now (.released false)

@[simp] theorem intake_decline (feed : Feed) (now : Instant) (reply : Reply) :
    (feed.decline now reply).intake = feed.intake := by
  unfold decline
  split
  · exact feed.intake_abandon now
  · rfl

@[simp] theorem intake_callOff (feed : Feed) (now : Instant) :
    (feed.callOff now).intake = feed.intake := by
  unfold callOff
  split
  · exact feed.intake_abandon now
  · rfl

@[simp] theorem intake_continueReading (feed : Feed) (now : Instant) (reading : Reading) :
    (feed.continueReading now reading).intake = feed.intake :=
  intake_of_log (feed.log_continueReading now reading)

/-- Handing on a group of lines adds nothing that counts to the log. -/
theorem Handing.intake
    {reading : Reading} {lines : List Bytes}
    (handing : feed.Handing now reading lines next) :
    next.intake = feed.intake := by
  cases handing with
  | spoiled fault =>
      split
      · rfl
      · exact feed.intake_abandon now
  | blank => exact feed.intake_continueReading now reading
  | added => exact intake_continueReading _ now _
  | filled => rfl
  | discarded => exact feed.intake_continueReading now _

/-- What the consumer gets does not count either. -/
theorem Polling.intake {result : Option Yield} (polling : feed.Polling now result next) :
    next.intake = feed.intake := by
  rw [Feed.intake, polling.log, List.foldl_append]
  cases result <;> rfl

/-! ## Where the loop may stand -/

/-- Unless the loop is held back or has ended, its buffer has room; and it is held back
only until the unit is gone. -/
def Paced (feed : Feed) : Prop :=
  match feed.stage with
  | .finished => True
  | .held ticket _ => feed.buffer.releases = ticket ∨ feed.buffer.pending = none
  | _ => feed.buffer.HasRoom

/-- The body in hand is split as its parts in the log say. -/
def InStep (feed : Feed) : Prop :=
  match feed.stage with
  | .posting _ _ _ => feed.intake.splitter = .empty
  | .reading _ reading => feed.intake.splitter = reading.splitter
  | .held _ reading => feed.intake.splitter = reading.splitter
  | _ => True

/-- The loop is neither held back nor at its end. -/
def Stage.isAtWork : Stage -> Bool
  | .held _ _ => false
  | .finished => false
  | _ => true

theorem Paced.hasRoom (paced : feed.Paced) (atWork : feed.stage.isAtWork = true) :
    feed.buffer.HasRoom := by
  unfold Paced at paced
  split at paced
  · next finished => simp [finished, Stage.isAtWork] at atWork
  · next held => simp [held, Stage.isAtWork] at atWork
  · exact paced

section going

variable (feed) (now)

theorem paced_atHead (hasRoom : feed.buffer.HasRoom) : (feed.atHead now).Paced := by
  unfold atHead
  split
  · trivial
  · exact hasRoom

theorem paced_endReply (hasRoom : feed.buffer.HasRoom) (origin cursor : UInt64) :
    (feed.endReply now origin cursor).Paced := by
  unfold endReply
  split
  · exact paced_atHead _ now hasRoom
  · exact hasRoom

theorem paced_continueReading (hasRoom : feed.buffer.HasRoom) (reading : Reading) :
    (feed.continueReading now reading).Paced := by
  unfold continueReading
  split
  · exact feed.paced_endReply now hasRoom _ _
  · exact hasRoom

@[simp] theorem pending_atHead : (feed.atHead now).buffer.pending = feed.buffer.pending := by
  unfold atHead
  split
  · exact feed.buffer.pending_close
  · rfl

@[simp] theorem pending_endReply (origin cursor : UInt64) :
    (feed.endReply now origin cursor).buffer.pending = feed.buffer.pending := by
  unfold endReply
  split
  · exact pending_atHead _ now
  · rfl

@[simp] theorem pending_continueReading (reading : Reading) :
    (feed.continueReading now reading).buffer.pending = feed.buffer.pending := by
  unfold continueReading
  split
  · exact feed.pending_endReply now _ _
  · rfl

theorem inStep_atHead : (feed.atHead now).InStep := by
  unfold atHead
  split <;> trivial

theorem inStep_endReply (origin cursor : UInt64) :
    (feed.endReply now origin cursor).InStep := by
  unfold endReply
  split
  · exact inStep_atHead _ now
  · trivial

theorem inStep_continueReading
    {reading : Reading}
    (inStep : feed.intake.splitter = reading.splitter) :
    (feed.continueReading now reading).InStep := by
  unfold continueReading
  split
  · exact feed.inStep_endReply now _ _
  · exact inStep

end going

/-! ## Handing on a group of lines -/

section handing

variable {reading : Reading} {lines : List Bytes}

theorem Handing.paced
    (handing : feed.Handing now reading lines next)
    (hasRoom : feed.buffer.HasRoom) :
    next.Paced := by
  cases handing with
  | spoiled => trivial
  | blank => exact feed.paced_continueReading now hasRoom reading
  | added part _ _ _ below =>
      have hasRoom : (feed.buffer.grown now part.blocks part.bytes).HasRoom := .inr below
      exact paced_continueReading { feed with buffer := _ } now hasRoom _
  | filled => exact .inl rfl
  | discarded => exact feed.paced_continueReading now hasRoom _

theorem Handing.inStep
    (handing : feed.Handing now reading lines next)
    (inStep : feed.intake.splitter = reading.splitter) :
    next.InStep := by
  cases handing with
  | spoiled => trivial
  | blank => exact feed.inStep_continueReading now inStep
  | added => exact inStep_continueReading _ now inStep
  | filled => exact inStep
  | discarded => exact feed.inStep_continueReading now inStep

/-- What is offered, and nothing else, becomes a part of the unit. -/
theorem Handing.pending
    (handing : feed.Handing now reading lines next)
    (running : feed.buffer.phase = .running) :
    (Ndjson.offer? lines = none ∧ next.buffer.pending = feed.buffer.pending) ∨
      ∃ part, Ndjson.offer? lines = some part ∧
        next.buffer.pending = some (feed.buffer.extended part.blocks part.bytes) := by
  cases handing with
  | spoiled fault spoiled =>
      refine .inl ⟨Ndjson.offer?_of_error spoiled, ?_⟩
      split <;> exact Buffer.pending_fail _ fault
  | blank part read empty =>
      exact .inl ⟨Ndjson.offer?_of_blank read empty, feed.pending_continueReading now reading⟩
  | added part read someBlocks =>
      exact .inr ⟨part, Ndjson.offer?_of_blocks read someBlocks,
        pending_continueReading _ now _⟩
  | filled part read someBlocks =>
      exact .inr ⟨part, Ndjson.offer?_of_blocks read someBlocks, rfl⟩
  | discarded _ _ _ ended => exact absurd running ended

end handing

/-! ## Steps of the loop -/

/-- A step puts nothing into the buffer. -/
def PutsNothing (feed next : Feed) : Prop :=
  next.puts = feed.puts ∧ next.buffer.pending = feed.buffer.pending

/-- A step puts a portion into the buffer. -/
def Puts (feed next : Feed) (part : Ndjson.Portion) : Prop :=
  next.puts = feed.puts ++ [part] ∧
    next.buffer.pending = some (feed.buffer.extended part.blocks part.bytes)

/-- Behind a step that leaves the log and the unit alone, nothing has been put. -/
theorem PutsNothing.of_intake
    (intake : next.intake = feed.intake)
    (pending : next.buffer.pending = feed.buffer.pending) :
    feed.PutsNothing next :=
  ⟨congrArg Intake.portions intake, pending⟩

/-- A part of a body, or its end, adds what it completes to what has been put. -/
theorem Handing.puts_eq
    {event : Event} {reading : Reading} {lines : List Bytes}
    (handing : (feed.record now event).Handing now reading lines next)
    (noted : (feed.intake.note event).portions =
      feed.intake.portions ++ (Ndjson.offer? lines).toList) :
    next.puts = feed.puts ++ (Ndjson.offer? lines).toList := by
  rw [Feed.puts, handing.intake, intake_record, noted, Feed.puts]

/-- A part of a body, or its end, puts what it completes into the buffer. -/
theorem Handing.puts
    {event : Event} {reading : Reading} {lines : List Bytes}
    (handing : (feed.record now event).Handing now reading lines next)
    (running : feed.buffer.phase = .running)
    (noted : (feed.intake.note event).portions =
      feed.intake.portions ++ (Ndjson.offer? lines).toList) :
    feed.PutsNothing next ∨ ∃ part, feed.Puts next part := by
  have portions := handing.puts_eq noted
  rcases handing.pending running with ⟨nothing, pending⟩ | ⟨part, offered, pending⟩
  · exact .inl ⟨by simpa [nothing] using portions, pending⟩
  · exact .inr ⟨part, by simpa [offered] using portions, pending⟩

/-- A step of the loop puts at most one portion into the buffer, and does so only while a
body is read. -/
theorem Proceeding.puts
    (proceeding : feed.Proceeding now cancelled next)
    (inStep : feed.InStep)
    (running : feed.buffer.phase = .running) :
    feed.PutsNothing next ∨
      (feed.stage.isAtWork = true ∧ ∃ part, feed.Puts next part) := by
  cases proceeding with
  | overreached => exact .inl (.of_intake rfl feed.buffer.pending_close)
  | calledOff =>
      refine .inl (.of_intake (feed.intake_callOff now) ?_)
      unfold callOff
      split <;> exact feed.buffer.pending_close
  | unlearned _ _ fault => exact .inl (.of_intake rfl (feed.buffer.pending_fail fault))
  | posted tip =>
      have noted : (feed.post now false tip).intake = feed.intake.note (.posted false _) :=
        feed.intake_record now _
      exact .inl ⟨by rw [Feed.puts, noted]; rfl, rfl⟩
  | asked => exact .inl (.of_intake (feed.intake_record now (.asked false)) rfl)
  | bodiless tip =>
      exact .inl (.of_intake (intake_of_log (log_endReply _ now _ _))
        (pending_endReply _ now _ _))
  | nothing _ _ _ reply =>
      refine .inl (.of_intake ?_ ?_)
      · exact (intake_of_log (log_atHead _ now)).trans (feed.intake_decline now reply)
      · rw [pending_atHead, buffer_decline]
  | refused _ _ _ reply =>
      refine .inl (.of_intake (feed.intake_decline now reply) ?_)
      exact (Buffer.pending_fail _ _).trans (by rw [buffer_decline])
  | unanswered _ _ _ fault => exact .inl (.of_intake rfl (feed.buffer.pending_fail fault))
  | exhausted since reading _ stage _ _ handing =>
      simp only [InStep, stage] at inStep
      refine (handing.puts running ?_).imp id fun puts => ⟨by rw [stage]; rfl, puts⟩
      simp only [Intake.note, Intake.grown, inStep]
  | received since reading _ chunk _ _ stage _ _ _ handing =>
      simp only [InStep, stage] at inStep
      refine (handing.puts running ?_).imp id fun puts => ⟨by rw [stage]; rfl, puts⟩
      simp only [Intake.note, Intake.grown, inStep]
  | broke _ reading _ fault =>
      refine .inl (.of_intake ?_ (feed.buffer.pending_fail fault))
      exact (intake_abandon _ now).trans (feed.intake_record now _)
  | crashed =>
      exact .inl (.of_intake (feed.intake_abandon now) (feed.buffer.pending_fail breakdown))
  | admitted _ reading =>
      exact .inl (.of_intake (feed.intake_continueReading now reading)
        (feed.pending_continueReading now reading))
  | _ => exact .inl (.of_intake rfl rfl)

/-- Every step of the loop keeps the body in hand in step with the log. -/
theorem InStep.proceed
    (inStep : feed.InStep)
    (proceeding : feed.Proceeding now cancelled next) :
    next.InStep := by
  cases proceeding with
  | calledOff =>
      unfold callOff
      split <;> trivial
  | posted tip => exact congrArg Intake.splitter (feed.intake_record now (.posted false _))
  | opened tip since answer reply parts posting =>
      simp only [InStep, posting] at inStep
      exact inStep
  | bodiless => exact inStep_endReply _ now _ _
  | nothing => exact inStep_atHead _ now
  | exhausted since reading _ stage _ _ handing =>
      simp only [InStep, stage] at inStep
      refine handing.inStep ?_
      simp only [intake_record, Intake.note, Intake.grown, inStep]
  | received since reading _ chunk _ _ stage _ _ _ handing =>
      simp only [InStep, stage] at inStep
      refine handing.inStep ?_
      simp only [intake_record, Intake.note, Intake.grown, inStep]
  | admitted ticket reading held =>
      simp only [InStep, held] at inStep
      exact feed.inStep_continueReading now inStep
  | _ => trivial

/-- Every step of the loop begins with room or ends a wait for it. -/
theorem Paced.proceed
    (paced : feed.Paced)
    (proceeding : feed.Proceeding now cancelled next)
    (running : feed.buffer.phase = .running) :
    next.Paced := by
  cases proceeding with
  | overreached => trivial
  | calledOff =>
      unfold callOff
      split <;> trivial
  | recalled _ turning => exact paced.hasRoom (by rw [turning]; rfl)
  | asked turning => exact paced.hasRoom (by rw [turning]; rfl)
  | learned _ _ _ asking => exact paced.hasRoom (by rw [asking]; rfl)
  | posted _ resolved => exact paced.hasRoom (by rw [resolved]; rfl)
  | opened _ _ _ _ _ posting => exact paced.hasRoom (by rw [posting]; rfl)
  | bodiless tip _ _ _ posting =>
      exact paced_endReply { feed with tip := some tip } now
        (paced.hasRoom (by rw [posting]; rfl)) _ _
  | nothing _ _ _ reply posting =>
      have hasRoom := paced.hasRoom (by rw [posting]; rfl)
      exact paced_atHead _ now (by rwa [buffer_decline])
  | exhausted _ _ _ stage _ _ handing =>
      exact handing.paced (paced.hasRoom (by rw [stage]; rfl))
  | received _ _ _ _ _ _ stage _ _ _ handing =>
      exact handing.paced (paced.hasRoom (by rw [stage]; rfl))
  | admitted ticket reading held _ admits =>
      -- What admits a running loop is a release, and that took the unit out.
      simp only [Paced, held] at paced
      refine feed.paced_continueReading now (.inl (paced.resolve_left ?_)) reading
      intro same
      simp [Buffer.admits, same, Buffer.isRunning_iff.mpr running] at admits
  | resumed _ pausing => exact paced.hasRoom (by rw [pausing]; rfl)
  | _ => trivial

/-- A loop that is held back asks nothing of its portal. -/
theorem Proceeding.calls_of_held
    (proceeding : feed.Proceeding now cancelled next)
    (held : feed.stage.isAtWork = false) :
    next.calls = feed.calls := by
  cases proceeding with
  | calledOff =>
      rw [calls, log_callOff, List.filter_append, calls]
      split <;> exact List.append_nil _
  | admitted _ reading => rw [calls, feed.log_continueReading now reading, calls]
  | _ => simp_all [Stage.isAtWork]

/-! ## What is true at all times -/

/-- The unit exceeds the greatest size by the portion that was put last at most. -/
def Moderate (feed : Feed) : Prop :=
  feed.buffer.pendingBytes ≤ feed.buffer.config.greatest + feed.lastPutBytes

/-- The blocks of the portions that were put are those that have been gathered, unless the
buffer has reported a fault and dropped its unit. -/
def Accounted (feed : Feed) : Prop :=
  feed.buffer.phase = .failed none ∨
    feed.gathered = feed.puts.flatMap Ndjson.Portion.blocks

/-- How the loop, its log and its buffer fit together. -/
structure Metered (feed : Feed) (cancelled : Bool) : Prop where
  conserves : feed.Conserves cancelled
  paced : feed.Paced
  inStep : feed.InStep
  moderate : feed.Moderate
  accounted : feed.Accounted

section puts

variable {part : Ndjson.Portion}

theorem Moderate.puts
    (moderate : feed.Moderate)
    (putsOrNot : feed.PutsNothing next ∨
      (feed.stage.isAtWork = true ∧ ∃ part, feed.Puts next part))
    (paced : feed.Paced)
    (config : next.buffer.config = feed.buffer.config) :
    next.Moderate := by
  rcases putsOrNot with ⟨puts, pending⟩ | ⟨atWork, part, puts, pending⟩
  · rw [Moderate, Buffer.pendingBytes, pending, config, lastPutBytes, puts]
    exact moderate
  · have isLast : next.lastPutBytes = part.bytes := by simp [lastPutBytes, puts]
    have size : next.buffer.pendingBytes = feed.buffer.pendingBytes + part.bytes := by
      rw [Buffer.pendingBytes, pending]
      rfl
    rw [Moderate, size, isLast, config]
    -- There was room before, so all that can lie above the greatest size is the new portion.
    rcases paced.hasRoom atWork with none | below
    · have nothing : feed.buffer.pendingBytes = 0 := by simp [Buffer.pendingBytes, none]
      omega
    · omega

theorem Accounted.puts
    (accounted : feed.Accounted)
    (putsOrNot : feed.PutsNothing next ∨
      (feed.stage.isAtWork = true ∧ ∃ part, feed.Puts next part))
    (running : feed.buffer.phase = .running)
    (yields : next.yields = feed.yields) :
    next.Accounted := by
  have gathered := accounted.resolve_left (by simp [running])
  refine .inr ?_
  have delivered : next.delivered = feed.delivered := by
    rw [Feed.delivered, batches, yields]
    rfl
  rcases putsOrNot with ⟨puts, pending⟩ | ⟨_, part, puts, pending⟩
  · rw [puts, ← gathered, Feed.gathered, Buffer.pendingBlocks, pending, delivered]
    rfl
  · rw [puts, List.flatMap_append, ← gathered, Feed.gathered, Buffer.pendingBlocks, pending,
      delivered, Feed.gathered, List.append_assoc, List.flatMap_singleton]
    rfl

end puts

theorem Metered.proceed
    (metered : feed.Metered cancelled)
    (proceeding : feed.Proceeding now cancelled next) :
    next.Metered cancelled := by
  have running := metered.conserves.running proceeding.unfinished
  have puts := proceeding.puts metered.inStep running
  have feeding := proceeding.feeding
  exact
    { conserves := metered.conserves.proceed proceeding
      paced := metered.paced.proceed proceeding running
      inStep := metered.inStep.proceed proceeding
      moderate := metered.moderate.puts puts metered.paced
        feeding.buffer.config_and_releases.1
      accounted := metered.accounted.puts puts running feeding.yields }

/-! ### The consumer -/

section polling

variable {result : Option Yield}

theorem Polling.puts (polling : feed.Polling now result next) : next.puts = feed.puts :=
  congrArg Intake.portions polling.intake

theorem Paced.poll (paced : feed.Paced) (polling : feed.Polling now result next) :
    next.Paced := by
  unfold Paced at paced ⊢
  rw [polling.looking.stage]
  split at paced
  · trivial
  · rcases polling.pending with none | ⟨pending, releases⟩
    · exact .inr none
    · rwa [pending, releases]
  · rcases polling.buffer with same | ⟨_, _, taking⟩
    · rwa [same]
    · exact paced.taking taking

theorem InStep.poll (inStep : feed.InStep) (polling : feed.Polling now result next) :
    next.InStep := by
  unfold InStep
  rw [polling.looking.stage, polling.intake]
  exact inStep

theorem Moderate.poll (moderate : feed.Moderate) (polling : feed.Polling now result next) :
    next.Moderate := by
  unfold Moderate lastPutBytes at moderate ⊢
  rw [polling.config, polling.puts]
  rcases polling.pending with none | ⟨pending, _⟩
  · simp [Buffer.pendingBytes, none]
  · rwa [Buffer.pendingBytes, pending]

theorem Accounted.poll (accounted : feed.Accounted) (polling : feed.Polling now result next) :
    next.Accounted := by
  unfold Accounted at accounted ⊢
  rw [polling.puts]
  rcases polling.moves with ⟨phase, gathered⟩ | ⟨_, failed, _⟩
  · rwa [phase, gathered]
  · exact .inl failed

end polling

/-- The loop, its log and its buffer fit together at all times. -/
theorem metered_invariant :
    Fleet.Invariant fun feed _ cancelled => feed.Metered cancelled where
  opened client portal query options now :=
    { conserves := conserves_invariant.opened client portal query options now
      paced := .inl rfl
      inStep := trivial
      moderate := Nat.zero_le _
      accounted := .inr rfl }
  proceeds metered proceeding := metered.proceed proceeding
  polls metered polling :=
    { conserves := metered.conserves.look polling.looking polling.moves
      paced := metered.paced.poll polling
      inStep := metered.inStep.poll polling
      moderate := metered.moderate.poll polling
      accounted := metered.accounted.poll polling }
  leaves metered :=
    { metered with conserves := metered.conserves.look looking_leave (.inl ⟨rfl, rfl⟩) }
  calledOff metered := { metered with conserves := metered.conserves.calledOff }
  later _ metered := metered

/-! ## While nobody takes a full unit out -/

/-- The loop has ended, or it is held back until the next release. -/
def Stalled (feed : Feed) : Prop :=
  feed.stage = .finished ∨
    (feed.buffer.phase = .running ∧ ∃ reading, feed.stage = .held feed.buffer.releases reading)

/-- Without room, the loop is stalled. -/
theorem Metered.stalled (metered : feed.Metered cancelled) (full : ¬feed.buffer.HasRoom) :
    feed.Stalled := by
  have paced := metered.paced
  cases stage : feed.stage with
  | finished => exact .inl stage
  | held ticket reading =>
      have running := metered.conserves.running (by simp [stage])
      simp only [Paced, stage] at paced
      have same := paced.resolve_right fun none => full (.inl none)
      exact .inr ⟨running, reading, by rw [same, stage]⟩
  | _ => exact absurd (paced.hasRoom (by rw [stage]; rfl)) full

/-- A stalled loop takes no step, unless it is called off. -/
theorem Stalled.calledOff
    (stalled : feed.Stalled)
    (proceeding : feed.Proceeding now cancelled next) :
    cancelled = true := by
  rcases stalled with finished | ⟨running, reading, held⟩
  · exact absurd finished proceeding.unfinished
  · cases proceeding with
    | calledOff _ _ isCancelled => exact isCancelled
    | admitted ticket _ isHeld _ admits =>
        obtain rfl : ticket = feed.buffer.releases := by
          rw [isHeld] at held
          injection held
        simp [Buffer.admits, Buffer.isRunning_iff.mpr running] at admits
    | _ => simp_all

/-- Until a release, a stalled loop stays so when the consumer asks. -/
theorem Stalled.poll
    {result : Option Yield}
    (stalled : feed.Stalled)
    (polling : feed.Polling now result next)
    (unreleased : next.buffer.releases = feed.buffer.releases) :
    next.Stalled := by
  rcases stalled with finished | ⟨running, reading, held⟩
  · exact .inl (polling.looking.stage.trans finished)
  · refine .inr ⟨?_, reading, by rw [unreleased, polling.looking.stage, held]⟩
    rcases polling.moves with ⟨phase, _⟩ | ⟨⟨report, failed⟩, _⟩
    · exact phase.trans running
    · exact absurd (running.symm.trans failed) nofun

/-- The loop has been stalled since there were `releases` releases, and has left its portal
and its buffer alone since then. -/
structure Rests (feed : Feed) (releases : Nat) (dealings : List Entry)
    (portions : List Ndjson.Portion) : Prop where
  stalled : feed.Stalled
  unreleased : feed.buffer.releases = releases
  dealings : feed.dealings = dealings
  puts : feed.puts = portions

/-- A stalled loop rests until a release, or until it is called off. -/
theorem rests_lasting
    (releases : Nat) (dealings : List Entry) (portions : List Ndjson.Portion) :
    Fleet.Lasting fun feed _ cancelled =>
      cancelled = true ∨ releases < feed.buffer.releases ∨
        feed.Rests releases dealings portions where
  proceeds {feed now cancelled next} outcome proceeding := by
    rcases outcome with isCancelled | released | rests
    · exact .inl isCancelled
    · refine .inr (.inl ?_)
      rwa [proceeding.feeding.buffer.config_and_releases.2]
    · exact .inl (rests.stalled.calledOff proceeding)
  polls {feed now cancelled result next} outcome polling := by
    have grown := polling.releases_le
    rcases outcome with isCancelled | released | rests
    · exact .inl isCancelled
    · exact .inr (.inl (by omega))
    · refine .inr ?_
      by_cases released : releases < next.buffer.releases
      · exact .inl released
      · have unreleased : next.buffer.releases = feed.buffer.releases := by
          have before := rests.unreleased
          omega
        exact .inr
          { stalled := rests.stalled.poll polling unreleased
            unreleased := unreleased.trans rests.unreleased
            dealings := polling.dealings.trans rests.dealings
            puts := polling.puts.trans rests.puts }
  leaves outcome := outcome.imp id (Or.imp id fun rests => { rests with })
  calledOff _ := .inl rfl
  later _ outcome := outcome

end Feed

namespace Fleet

/-- The options with which an action opens a feed. -/
def Action.options? : Action -> Option StreamOptions
  | .opened _ _ _ options => some options
  | _ => none

/-- The configuration of a feed's buffer never changes. -/
theorem config_constant : Constant fun feed => feed.buffer.config where
  proceeds proceeding := proceeding.feeding.buffer.config_and_releases.1
  polls polling := polling.config
  leaves _ := rfl

/-- The buffer of a feed is configured by the options with which it was opened. -/
theorem config_of_options
    {tokens : Tokens} {actions : List Action} {index : Nat} {member : Member}
    {options : StreamOptions}
    (found : ((create tokens).run actions).members[index]? = some member)
    (opened : (actions.filterMap Action.options?)[index]? = some options) :
    member.feed.buffer.config = options.buffer := by
  have given : ∀ action : Action,
      action.feed?.map (·.buffer.config) = action.options?.map StreamOptions.buffer := by
    intro action
    cases action <;> rfl
  refine config_constant.eq_of_opened given found ?_
  rw [← List.map_filterMap, List.getElem?_map, opened]
  rfl

/-- The loop asks for something, receives something or puts a portion into its buffer only
while there is no unit or one below the ceiling. So the unit exceeds the ceiling by the
portion that was put last at most. Behind a unit that has reached it, the loop leaves its
portal and its buffer alone until the next release, unless the feed is called off. -/
theorem loops_keep_below_ceiling (tokens : Tokens) (actions : List Action) :
    let fleet := (create tokens).run actions
    ∀ (index : Nat) (member : Member) (options : StreamOptions),
      fleet.members[index]? = some member ->
      (actions.filterMap Action.options?)[index]? = some options ->
      let feed := member.feed
      let ceiling := max (options.maxBytes.getD options.minBytes) options.minBytes
      let hasRoom := feed.buffer.pending = none ∨ feed.buffer.pendingBytes < ceiling
      (∀ next, feed.proceed? fleet.now (fleet.isCancelled member) = some next ->
        next.calls ≠ feed.calls ∨ next.puts ≠ feed.puts -> hasRoom) ∧
      (∀ since reading, feed.stage = .reading since reading -> hasRoom) ∧
      feed.buffer.pendingBytes ≤ ceiling + feed.lastPutBytes ∧
      (¬hasRoom -> ∀ more,
        ∃ later, (fleet.run more).members[index]? = some later ∧
          ((fleet.run more).isCancelled later = true ∨
            feed.buffer.releases < later.feed.buffer.releases ∨
            (later.feed.dealings = feed.dealings ∧ later.feed.puts = feed.puts))) := by
  intro fleet index member options found opened feed ceiling hasRoom
  have metered := Feed.metered_invariant.run tokens actions member (List.mem_of_getElem? found)
  have greatest : feed.buffer.config.greatest = ceiling :=
    congrArg Buffer.Config.greatest (config_of_options found opened)
  have isRoom : feed.buffer.HasRoom ↔ hasRoom := by
    simp only [Buffer.HasRoom, greatest, hasRoom]
  refine ⟨?_, ?_, ?_, ?_⟩
  · intro next proceeds calls
    have proceeding := Feed.proceeding_of_proceed proceeds
    have running := metered.conserves.running proceeding.unfinished
    refine isRoom.mp (metered.paced.hasRoom ?_)
    rcases calls with calls | puts
    · exact Bool.of_not_eq_false fun held => calls (proceeding.calls_of_held held)
    · rcases proceeding.puts metered.inStep running with ⟨nothing, _⟩ | ⟨atWork, _⟩
      · exact absurd nothing puts
      · exact atWork
  · intro since reading stage
    exact isRoom.mp (metered.paced.hasRoom (congrArg Feed.Stage.isAtWork stage))
  · rw [← greatest]
    exact metered.moderate
  · intro full more
    have rests : feed.Rests feed.buffer.releases feed.dealings feed.puts :=
      ⟨metered.stalled (fun room => full (isRoom.mp room)), rfl, rfl, rfl⟩
    obtain ⟨later, isLater, _, outcome⟩ :=
      (Feed.rests_lasting _ _ _).run found (.inr (.inr rests)) more
    exact ⟨later, isLater, outcome.imp id (Or.imp id fun still => ⟨still.dealings, still.puts⟩)⟩

/-- A loop whose first block reaches the ceiling rests until somebody takes it. -/
theorem loops_keep_below_ceiling_of_one_octet :
    let line := Bytes.ofString "\x7b\"header\":\x7b\"number\":7\x7d\x7d\n"
    let portal := Portal.scripted []
      [⟨0, .ok ⟨200, some [⟨0, .data line⟩, ⟨0, .data line⟩]⟩⟩]
    let options : StreamOptions := { minBytes := 1 }
    let fleet := (create .empty).run
      (.opened ⟨"", "", {}⟩ portal (.ofSelection (.empty .evm)) options ::
        List.replicate 8 (.proceed 0))
    ∃ member later, fleet.members[0]? = some member ∧
      1 < member.feed.buffer.pendingBytes ∧
      member.feed.buffer.pendingBytes ≤ 1 + member.feed.lastPutBytes ∧
      (fleet.run [.proceed 0, .pass (Duration.ofSeconds 1), .proceed 0]).members[0]? =
        some later ∧
      later.feed.dealings = member.feed.dealings ∧ later.feed.puts = member.feed.puts := by
  intro line portal options fleet
  let more := [Action.proceed 0, .pass (Duration.ofSeconds 1), .proceed 0]
  have full : fleet.members.map (fun member =>
      (member.feed.buffer.pending.isSome, member.feed.buffer.pendingBytes,
        member.feed.buffer.releases)) = [(true, 23, 0)] := by
    decide +kernel
  have waits : (fleet.run more).members.map (fun later =>
      ((fleet.run more).isCancelled later, later.feed.buffer.releases)) = [(false, 0)] := by
    decide +kernel
  obtain ⟨member, members⟩ : ∃ member, fleet.members = [member] :=
    List.length_eq_one_iff.mp (by simpa using congrArg List.length full)
  have found : fleet.members[0]? = some member := by rw [members]; rfl
  simp only [members, List.map_cons, List.map_nil, List.cons.injEq, Prod.mk.injEq, and_true]
    at full
  obtain ⟨present, size, unreleased⟩ := full
  obtain ⟨_, _, bound, rests⟩ :=
    loops_keep_below_ceiling .empty _ 0 member options found rfl
  have noRoom : ¬(member.feed.buffer.pending = none ∨ member.feed.buffer.pendingBytes < 1) := by
    rintro (none | below)
    · simp [none] at present
    · omega
  obtain ⟨later, isLater, outcome⟩ := rests noRoom more
  have seen := observe_eq waits isLater
  rw [Prod.mk.injEq] at seen
  obtain ⟨notCancelled, stillUnreleased⟩ := seen
  rcases outcome with isCancelled | released | same
  · exact absurd (notCancelled.symm.trans isCancelled) nofun
  · rw [unreleased, stillUnreleased] at released
    exact absurd released (Nat.lt_irrefl 0)
  · exact ⟨member, later, found, by omega, bound, isLater, same⟩

end Fleet
end BlockFeed
