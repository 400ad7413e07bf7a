import BlockFeed.Proofs.Feed.Backpressure
import BlockFeed.Proofs.Feed.Cancellation
import BlockFeed.Proofs.Feed.Termination
import BlockFeed.Proofs.Ndjson.Draining

/-!
# How a feed drains a body

While the loop of a feed reads a body, what it has put into its buffer and what the rest of
the body brings are together what comes of draining the whole body. The loop waits for
nothing but the next part of the body and for room in its buffer, and it leaves the body
either because the feed was called off or with what draining it comes to. So what a feed
makes of a body agrees with what reading the whole of it comes to.
-/

namespace BlockFeed

/-- A part of a body as it arrives at a feed. -/
def Item.ofPart : Except Fault Bytes -> Item
  | .ok chunk => .data chunk
  | .error fault => .failed fault

section ofPart

variable {delay : Duration} {item : Item} {rest : List (Timed Item)} {parts : Body}

/-- A body neither breaks down nor falls silent. -/
theorem Item.is_part
    (same : (⟨delay, item⟩ :: rest).map Timed.content = parts.map Item.ofPart) :
    item ≠ .crash ∧ item ≠ .silence := by
  obtain ⟨part, _, rfl, rfl, _⟩ := List.map_eq_cons_iff.mp same.symm
  cases part <;> simp [Item.ofPart]

/-- Only a chunk of a body arrives as such. -/
theorem Item.of_data
    {chunk : Bytes}
    (same : (⟨delay, .data chunk⟩ :: rest).map Timed.content = parts.map Item.ofPart) :
    ∃ behind, parts = .ok chunk :: behind ∧
      rest.map Timed.content = behind.map Item.ofPart := by
  obtain ⟨part, behind, rfl, isChunk, isRest⟩ := List.map_eq_cons_iff.mp same.symm
  cases part with
  | ok value =>
      cases isChunk
      exact ⟨behind, rfl, isRest.symm⟩
  | error fault => cases isChunk

/-- Only the fault of a body arrives as such. -/
theorem Item.of_failed
    {fault : Fault}
    (same : (⟨delay, .failed fault⟩ :: rest).map Timed.content = parts.map Item.ofPart) :
    ∃ behind, parts = .error fault :: behind := by
  obtain ⟨part, behind, rfl, isFault, _⟩ := List.map_eq_cons_iff.mp same.symm
  cases part with
  | ok chunk => cases isFault
  | error value =>
      cases isFault
      exact ⟨behind, rfl⟩

end ofPart

namespace Feed

open Ndjson (Drainage)

/-! ## Places within a body -/

/-- The body at which the loop stands. -/
def Stage.body? : Stage -> Option Reading
  | .reading _ body => some body
  | .held _ body => some body
  | _ => none

deriving instance DecidableEq for Reading

/-- The body that is read, and since when its next part is asked for. -/
def Stage.reading? : Stage -> Option (Instant × Reading)
  | .reading since body => some (since, body)
  | _ => none

theorem Stage.eq_reading {stage : Stage} {since : Instant} {body : Reading}
    (reads : stage.reading? = some (since, body)) :
    stage = .reading since body := by
  cases stage <;> simp_all [reading?]

/-- What comes of draining the rest of a body. -/
def Reading.drainage (reading : Reading) (parts : Body) : Drainage :=
  if reading.exhausted then ([], .ok reading.cursor)
  else Ndjson.drain reading.cursor (Line.groups reading.splitter parts)

/-- A body that is to be drained: what was put before it, the first block that was asked
for, and what comes of draining it. -/
structure Errand where
  before : List Ndjson.Portion
  origin : UInt64
  drainage : Drainage

/-- The loop is within a body of which `parts` are still to come, and has put `made` of
it. -/
structure DrainsWith (feed : Feed) (errand : Errand) (reading : Reading) (parts : Body)
    (made : List Ndjson.Portion) : Prop where
  rest : reading.rest.map Timed.content = parts.map Item.ofPart
  origin : reading.origin = errand.origin
  cursor : feed.cursor = errand.origin
  puts : feed.puts = errand.before ++ made
  drainage : errand.drainage =
    (made ++ (reading.drainage parts).1, (reading.drainage parts).2)

/-- The loop is within a body: what it has put and what the rest of the body brings are what
comes of draining it. -/
def Drains (feed : Feed) (errand : Errand) : Prop :=
  ∃ reading parts made, feed.stage.body? = some reading ∧
    feed.DrainsWith errand reading parts made

/-- The loop has come to the end of a body. -/
inductive HasDrained (feed : Feed) (errand : Errand) (cancelled : Bool) : Prop
  /-- The feed was called off: the first of the portions have been put. -/
  | calledOff (made : List Ndjson.Portion) :
      cancelled = true ->
      feed.stage = .finished ->
      made <+: errand.drainage.1 ->
      feed.puts = errand.before ++ made ->
      HasDrained feed errand cancelled
  /-- The body was read to its end, and the loop goes on behind its last block. -/
  | read (cursor : UInt64) :
      errand.drainage.2 = .ok cursor ->
      feed.puts = errand.before ++ errand.drainage.1 ->
      feed.stage.IsBehindBody ->
      feed.cursor = cursor ->
      HasDrained feed errand cancelled
  /-- The body could not be read to its end, and the loop has ended. -/
  | failed (fault : Fault) :
      errand.drainage.2 = .error fault ->
      feed.puts = errand.before ++ errand.drainage.1 ->
      feed.stage = .finished ->
      feed.buffer.phase = Buffer.endedBy fault ->
      HasDrained feed errand cancelled

variable {feed next : Feed} {errand : Errand} {reading : Reading} {parts : Body}
  {made : List Ndjson.Portion} {now : Instant} {cancelled : Bool}

/-! ## Steps within a body -/

@[simp] theorem cursor_atHead (feed : Feed) (now : Instant) :
    (feed.atHead now).cursor = feed.cursor := by
  unfold atHead
  split <;> rfl

/-- Behind a body, the loop stands at the first block that is missing. -/
theorem cursor_endReply (now : Instant) {origin : UInt64} (same : feed.cursor = origin)
    (cursor : UInt64) :
    (feed.endReply now origin cursor).cursor = cursor := by
  unfold endReply
  split
  · next equal =>
      rw [cursor_atHead, beq_iff_eq.mp equal]
      exact same
  · rfl

theorem puts_of_intake (intake : next.intake = feed.intake) : next.puts = feed.puts :=
  congrArg Intake.portions intake

/-- Going on with a body leads back into it, or to its end. -/
theorem DrainsWith.continueReading
    (drains : feed.DrainsWith errand reading parts made)
    (now : Instant) (cancelled : Bool) :
    (feed.continueReading now reading).Drains errand ∨
      (feed.continueReading now reading).HasDrained errand cancelled := by
  have puts := puts_of_intake (feed.intake_continueReading now reading)
  cases exhausted : reading.exhausted with
  | true =>
      have isEnd : feed.continueReading now reading =
          feed.endReply now reading.origin reading.cursor := by
        rw [Feed.continueReading, if_pos exhausted]
      have drainage := drains.drainage
      rw [Reading.drainage, if_pos exhausted, List.append_nil] at drainage
      refine .inr (.read reading.cursor (by rw [drainage]) ?_ ?_ ?_)
      · rw [puts, drains.puts, drainage]
      · rw [isEnd]
        exact isBehindBody_endReply _ now _ _
      · rw [isEnd]
        exact cursor_endReply now (drains.cursor.trans drains.origin.symm) _
  | false =>
      have goesOn : feed.continueReading now reading =
          { feed with stage := .reading now reading } := by
        rw [Feed.continueReading, exhausted, if_neg Bool.false_ne_true]
      rw [goesOn]
      exact .inl ⟨reading, parts, made, rfl, drains.rest, drains.origin, drains.cursor,
        drains.puts, drains.drainage⟩

/-- Handing on the lines of a part leads back into the body behind it, or to its end. -/
theorem Handing.drains
    {event : Event} {lines : List Bytes}
    (handing : (feed.record now event).Handing now reading lines next)
    (running : feed.buffer.phase = .running)
    (noted : (feed.intake.note event).portions =
      feed.intake.portions ++ (Ndjson.offer? lines).toList)
    (rest : reading.rest.map Timed.content = parts.map Item.ofPart)
    (origin : reading.origin = errand.origin)
    (cursor : feed.cursor = errand.origin)
    (puts : feed.puts = errand.before ++ made)
    {goOn : UInt64 -> Drainage}
    (goesOn : ∀ behind, goOn behind = { reading with cursor := behind }.drainage parts)
    (drainage : errand.drainage =
      (made ++ (Ndjson.putGroup lines goOn reading.cursor).1,
        (Ndjson.putGroup lines goOn reading.cursor).2)) :
    next.Drains errand ∨ next.HasDrained errand cancelled := by
  have nowPuts : (feed.record now event).puts =
      errand.before ++ (made ++ (Ndjson.offer? lines).toList) := by
    rw [Feed.puts, intake_record, noted, ← List.append_assoc, ← puts, Feed.puts]
  have behind : ∀ {part : Ndjson.Portion}, Ndjson.portion lines = .ok part ->
      ∀ later : Feed, later.log = (feed.record now event).log -> later.cursor = feed.cursor ->
      later.DrainsWith errand { reading with cursor := part.cursorBehind reading.cursor } parts
        (made ++ (Ndjson.offer? lines).toList) := by
    intro part read later log sameCursor
    refine ⟨rest, origin, sameCursor.trans cursor, ?_, ?_⟩
    · rw [Feed.puts, intake_of_log log]
      exact nowPuts
    · rw [drainage, Ndjson.putGroup, read, ← goesOn, List.append_assoc]
  cases handing with
  | spoiled fault failed =>
      rw [Ndjson.putGroup, failed, List.append_nil] at drainage
      rw [Ndjson.offer?_of_error failed, Option.toList_none, List.append_nil] at nowPuts
      refine .inr (.failed fault (by rw [drainage]) ?_ rfl ?_)
      · rw [drainage]
        refine Eq.trans ?_ nowPuts
        split
        · rfl
        · exact puts_of_intake (intake_abandon _ now)
      · split
        all_goals exact congrArg Buffer.phase (Buffer.fail_of_running running fault)
  | blank part read empty =>
      have same := behind read (feed.record now event) rfl rfl
      rw [cursorBehind_of_empty empty] at same
      exact same.continueReading now cancelled
  | added part read =>
      have grown := fun buffer =>
        (behind read { feed.record now event with buffer := buffer } rfl rfl).continueReading now
          cancelled
      exact grown _
  | filled part read => exact .inl ⟨_, _, _, rfl, behind read _ rfl rfl⟩
  | discarded _ _ _ ended => exact absurd running ended

/-- A body that is being read has not been seen to end. -/
theorem Conserves.exhausted_eq_false
    {since : Instant}
    (conserves : feed.Conserves cancelled)
    (stage : feed.stage = .reading since reading) :
    reading.exhausted = false := by
  simp only [Conserves, stage] at conserves
  exact conserves.2.2

/-- Every step of the loop within a body leads back into it, or to its end. -/
theorem Drains.proceed
    (drains : feed.Drains errand)
    (metered : feed.Metered cancelled)
    (proceeding : feed.Proceeding now cancelled next) :
    next.Drains errand ∨ next.HasDrained errand cancelled := by
  obtain ⟨reading, parts, made, body, drains⟩ := drains
  have running := metered.conserves.running proceeding.unfinished
  have inStep := metered.inStep
  have drainage := drains.drainage
  have rest := drains.rest
  cases proceeding with
  | calledOff _ _ isCancelled =>
      refine .inr (.calledOff made isCancelled (feed.stage_callOff now) ?_ ?_)
      · rw [drainage]
        exact List.prefix_append made _
      · exact (puts_of_intake (feed.intake_callOff now)).trans drains.puts
  | exhausted since atEnd _ stage _ noRest handing =>
      obtain rfl : atEnd = reading := by simpa [stage, Stage.body?] using body
      obtain rfl : parts = [] := by simpa [noRest] using rest.symm
      rw [Reading.drainage, metered.conserves.exhausted_eq_false stage,
        if_neg Bool.false_ne_true, Ndjson.drain_end] at drainage
      simp only [InStep, stage] at inStep
      refine handing.drains running ?_ rest drains.origin drains.cursor drains.puts ?_ drainage
      · simp only [Intake.note, Intake.grown, inStep]
      · exact fun _ => rfl
  | received since before _ chunk later _ stage _ isRest _ handing =>
      obtain rfl : before = reading := by simpa [stage, Stage.body?] using body
      obtain ⟨behind, rfl, laterRest⟩ := Item.of_data (by rwa [isRest] at rest)
      have more := metered.conserves.exhausted_eq_false stage
      rw [Reading.drainage, more, if_neg Bool.false_ne_true] at drainage
      simp only [InStep, stage] at inStep
      refine handing.drains running ?_ laterRest drains.origin drains.cursor drains.puts ?_
        drainage
      · simp only [Intake.note, Intake.grown, inStep]
      · intro cursor
        rw [Reading.drainage, more, if_neg Bool.false_ne_true]
  | broke since before _ fault _ stage _ isRest =>
      obtain rfl : before = reading := by simpa [stage, Stage.body?] using body
      obtain ⟨behind, rfl⟩ := Item.of_failed (by rwa [isRest] at rest)
      rw [Reading.drainage, metered.conserves.exhausted_eq_false stage,
        if_neg Bool.false_ne_true] at drainage
      refine .inr (.failed fault (by rw [drainage]; rfl) ?_ rfl ?_)
      · have same : (((feed.record now (.received before.index (.failed fault))).abandon
            now).fail fault).puts = feed.puts :=
          puts_of_intake ((intake_abandon _ now).trans (feed.intake_record now _))
        rw [same, drains.puts, drainage]
        exact congrArg (errand.before ++ ·) (List.append_nil made).symm
      · exact congrArg Buffer.phase (Buffer.fail_of_running running fault)
  | crashed since before _ _ stage _ isRest =>
      obtain rfl : before = reading := by simpa [stage, Stage.body?] using body
      rw [isRest] at rest
      exact absurd rfl (Item.is_part rest).1
  | admitted ticket before stage =>
      obtain rfl : before = reading := by simpa [stage, Stage.body?] using body
      exact drains.continueReading now cancelled
  | _ => simp_all [Stage.body?]

/-- The consumer leaves the loop where it is within a body. -/
theorem Drains.look
    (drains : feed.Drains errand)
    (looking : feed.Looking next)
    (puts : next.puts = feed.puts) :
    next.Drains errand := by
  obtain ⟨reading, parts, made, body, drains⟩ := drains
  refine ⟨reading, parts, made, by rw [looking.stage, body], drains.rest, drains.origin, ?_, ?_,
    drains.drainage⟩
  · rw [looking.cursor, drains.cursor]
  · rw [puts, drains.puts]

/-! ## What the loop waits for -/

/-- The next part of the body has not arrived. -/
def AwaitsPart (feed : Feed) (now : Instant) : Prop :=
  ∃ since reading part rest, feed.stage = .reading since reading ∧
    reading.rest = part :: rest ∧ now < since + part.delay

/-- The buffer holds the loop back. -/
def AwaitsRoom (feed : Feed) : Prop :=
  ∃ ticket reading, feed.stage = .held ticket reading ∧ feed.buffer.admits ticket = false

/-- Within a body, the loop can always go on unless it waits for the next part or for
room. -/
theorem Drains.proceeds
    (drains : feed.Drains errand)
    (goes : cancelled = false -> ¬feed.AwaitsPart now ∧ ¬feed.AwaitsRoom) :
    ∃ next, feed.proceed? now cancelled = some next := by
  obtain ⟨reading, parts, made, body, drains⟩ := drains
  have rest := drains.rest
  cases cancelled with
  | true => cases stage : feed.stage <;> simp_all [Stage.body?, proceed?]
  | false =>
      obtain ⟨notPart, notRoom⟩ := goes rfl
      cases stage : feed.stage with
      | reading since current =>
          obtain rfl : current = reading := by simpa [stage, Stage.body?] using body
          simp only [proceed?, stage, Bool.false_eq_true, if_false, read?]
          split
          · exact ⟨_, rfl⟩
          · next isRest =>
              rw [isRest] at rest
              exact absurd rfl (Item.is_part rest).2
          · next isRest =>
              have arrived := fun late => notPart ⟨since, current, _, _, stage, isRest, late⟩
              rw [if_pos (Nat.le_of_not_lt arrived)]
              exact ⟨_, rfl⟩
      | held ticket current =>
          have admits : feed.buffer.admits ticket = true :=
            Bool.of_not_eq_false fun refused => notRoom ⟨ticket, current, stage, refused⟩
          simp [proceed?, stage, admits]
      | _ => simp [stage, Stage.body?] at body

/-- Within a body, every step brings the loop nearer to the end of it. -/
theorem Drains.weight_lt
    (drains : feed.Drains errand)
    (proceeding : feed.Proceeding now cancelled next) :
    next.stage.weight < feed.stage.weight := by
  obtain ⟨reading, _, _, body, _⟩ := drains
  rcases proceeding.working_or_post with working | ⟨tip, resolved, _⟩
  · exact proceeding.weight_lt working.posts
  · simp [resolved, Stage.body?] at body

/-! ## Whole runs -/

/-- What has been put into the buffer is what the consumer got and what is pending. -/
theorem Metered.gathered_of_proceeding
    (metered : feed.Metered cancelled)
    (proceeding : feed.Proceeding now cancelled next) :
    next.gathered = Ndjson.blocksOf next.puts := by
  have running := metered.conserves.running proceeding.unfinished
  refine (metered.proceed proceeding).accounted.resolve_left fun reported => ?_
  exact absurd (running.symm.trans (proceeding.feeding.buffer.reported reported)) nofun

/-- The loop stays within a body until it has come to its end. -/
theorem drains_until (errand : Errand) :
    Fleet.Until (fun feed _ cancelled => feed.Metered cancelled ∧ feed.Drains errand)
      (fun feed _ cancelled => feed.HasDrained errand cancelled ∧
        feed.gathered = Ndjson.blocksOf feed.puts) where
  proceeds holds proceeding :=
    (holds.2.proceed holds.1 proceeding).imp
      (fun drains => ⟨holds.1.proceed proceeding, drains⟩)
      (fun drained => ⟨drained, holds.1.gathered_of_proceeding proceeding⟩)
  polls holds polling :=
    ⟨metered_invariant.polls holds.1 polling, holds.2.look polling.looking polling.puts⟩
  leaves {feed now cancelled} holds :=
    ⟨@metered_invariant.leaves feed now cancelled holds.1, holds.2.look looking_leave rfl⟩
  calledOff {feed now} holds := ⟨@metered_invariant.calledOff feed now holds.1, holds.2⟩
  later _ holds := holds

/-- The loop is within a body: it has put the first of the portions, and unless it waits for
the next part or for room, it can go on and then is nearer to the end of the body. -/
structure IsWithin (feed : Feed) (errand : Errand) (now : Instant) (cancelled : Bool) :
    Prop where
  puts : ∃ made, made <+: errand.drainage.1 ∧ feed.puts = errand.before ++ made
  gathered : feed.gathered = Ndjson.blocksOf feed.puts
  goesOn : (cancelled = false ∧ (feed.AwaitsPart now ∨ feed.AwaitsRoom)) ∨
    ∃ next, feed.proceed? now cancelled = some next ∧ next.stage.weight < feed.stage.weight

theorem Drains.isWithin (drains : feed.Drains errand) (metered : feed.Metered cancelled) :
    feed.IsWithin errand now cancelled := by
  refine ⟨?_, ?_, ?_⟩
  · obtain ⟨_, _, made, _, drains⟩ := drains
    refine ⟨made, ?_, drains.puts⟩
    rw [drains.drainage]
    exact List.prefix_append made _
  · obtain ⟨_, _, _, body, _⟩ := drains
    have unfinished : feed.stage ≠ .finished := by
      intro finished
      simp [finished, Stage.body?] at body
    exact metered.accounted.resolve_left fun reported =>
      absurd ((metered.conserves.running unfinished).symm.trans reported) nofun
  · by_cases waits : cancelled = false ∧ (feed.AwaitsPart now ∨ feed.AwaitsRoom)
    · exact .inl waits
    · obtain ⟨next, proceeds⟩ : ∃ next, feed.proceed? now cancelled = some next :=
        drains.proceeds fun going => not_or.mp fun awaits => waits ⟨going, awaits⟩
      exact .inr ⟨next, proceeds, drains.weight_lt (proceeding_of_proceed proceeds)⟩

end Feed

namespace Client

/-- Reading a body to its end, part by part, collects it. -/
theorem readBody_eq_collect
    {parts : List (Timed Item)} {body : Body}
    (same : parts.map Timed.content = body.map Item.ofPart)
    (index : Nat) (dialogue : Dialogue) :
    (readBody index dialogue parts).1 = some body.collect := by
  induction parts generalizing index dialogue body with
  | nil =>
      obtain rfl : body = [] := by simpa using same.symm
      rfl
  | cons part rest inductionHypothesis =>
      obtain ⟨delay, item⟩ := part
      cases item with
      | data chunk =>
          obtain ⟨behind, rfl, sameRest⟩ := Item.of_data same
          simp only [readBody, inductionHypothesis sameRest, Body.collect, Option.map_some]
      | failed fault =>
          obtain ⟨_, rfl⟩ := Item.of_failed same
          rfl
      | crash => exact absurd rfl (Item.is_part same).1
      | silence => exact absurd rfl (Item.is_part same).2

/-- The blocks of an answer of status 200 are those of its body. -/
theorem blocksOf_ok (client : Client) (body : Bytes) :
    client.blocksOf 200 body = Ndjson.ofBody body := rfl

end Client

namespace Fleet

open Feed Ndjson

/-- Whatever happens, a loop that has begun to read a body puts the first of the portions to
which draining the body comes, until it has put all of them or is called off. -/
theorem drains_until_end
    {fleet : Fleet} {index : Nat} {member : Member} {since : Instant} {origin : UInt64}
    {parts : List (Timed Item)} {chunks : List Bytes} {broken : Option Fault}
    (found : fleet.members[index]? = some member)
    (metered : member.feed.Metered (fleet.isCancelled member))
    (stage : member.feed.stage = .reading since ⟨origin, origin, .empty, 0, parts, false⟩)
    (same : parts.map Timed.content = (bodyOf chunks broken).map Item.ofPart)
    (more : List Action) :
    let errand : Errand := ⟨member.feed.puts, origin,
      drain origin (Line.groups .empty (bodyOf chunks broken))⟩
    (∃ later, (fleet.run more).members[index]? = some later ∧
        later.feed.IsWithin errand (fleet.run more).now ((fleet.run more).isCancelled later)) ∨
      ∃ first rest later, more = first ++ rest ∧
        (fleet.run first).members[index]? = some later ∧
        later.feed.HasDrained errand ((fleet.run first).isCancelled later) ∧
        later.feed.gathered = blocksOf later.feed.puts := by
  intro errand
  have reads := metered.conserves
  simp only [Conserves, stage] at reads
  have drains : member.feed.Drains errand :=
    ⟨_, bodyOf chunks broken, [], congrArg Stage.body? stage, same, rfl,
      reads.2.1.origin.symm, (List.append_nil _).symm, rfl⟩
  refine ((drains_until errand).run found ⟨metered, drains⟩ more).imp ?_ id
  rintro ⟨later, isLater, laterMetered, stillDrains⟩
  exact ⟨later, isLater, stillDrains.isWithin laterMetered⟩

/-- Whatever body a loop has begun to read, it puts the first of certain portions until it
has put all of them or is called off, and ends up behind their last block or with a fault.
They agree with what reading the whole body comes to: the same blocks, or the same fault
behind blocks that stand before the line that is no block. If the body breaks off, reading the
whole of it comes to that fault, and so does the loop unless a line that was completed before
is no block. -/
theorem streamed_and_buffered_bodies_agree (tokens : Tokens) (actions : List Action) :
    let fleet := (create tokens).run actions
    ∀ (index : Nat) (member : Member) (since : Instant) (origin : UInt64)
      (parts : List (Timed Item)) (chunks : List Bytes) (broken : Option Fault),
      fleet.members[index]? = some member ->
      member.feed.stage = .reading since ⟨origin, origin, .empty, 0, parts, false⟩ ->
      parts.map Timed.content = (bodyOf chunks broken).map Item.ofPart ->
      let body := chunks.flatten
      ∃ (puts : List Portion) (outcome : Except Fault UInt64) (done : List Bytes),
        (∀ more,
          (∃ later, (fleet.run more).members[index]? = some later ∧
            later.feed.IsWithin ⟨member.feed.puts, origin, puts, outcome⟩ (fleet.run more).now
              ((fleet.run more).isCancelled later)) ∨
          ∃ first rest later, more = first ++ rest ∧
            (fleet.run first).members[index]? = some later ∧
            later.feed.HasDrained ⟨member.feed.puts, origin, puts, outcome⟩
              ((fleet.run first).isCancelled later) ∧
            later.feed.gathered = blocksOf later.feed.puts) ∧
        done <+: Line.completed body broken.isNone ∧
        blocks done = .ok (blocksOf puts) ∧
        bytesOf puts = (carrying done).flatten.length ∧
        ∀ (client : Client) (dialogue : Client.Dialogue),
          let whole := (Client.readReply dialogue ⟨200, some parts⟩).1
          let buffered := whole.map fun result => result.bind (client.blocksOf 200)
          whole = some (Response.bytes ⟨200, bodyOf chunks broken⟩) ∧
          (broken = none ->
            whole = some (.ok body) ∧
            ((∃ values cursor, buffered = some (.ok values) ∧ outcome = .ok cursor ∧
              blocksOf puts = values ∧ done = Line.pieces body ∧
              (values = [] -> cursor = origin) ∧
              ∀ last, values.getLast? = some last ->
                cursor.toNat = min (last.number.toNat + 1) (UInt64.size - 1)) ∨
            ∃ before line rest problem, Line.pieces body = before ++ line :: rest ∧
              Sound before ∧ Line.isBlank line = false ∧ Block.read line = .error problem ∧
              buffered = some (.error (.malformed line problem)) ∧
              outcome = .error (.malformed line problem) ∧
              blocksOf puts <+: readable before)) ∧
          ∀ fault, broken = some fault ->
            whole = some (.error fault) ∧
            ((Sound (Line.completed body false) ∧ outcome = .error fault) ∨
              ∃ line problem, SpoiledBy (Line.completed body false) line problem ∧
                outcome = .error (.malformed line problem)) := by
  intro fleet index member since origin parts chunks broken found stage same body
  have metered := metered_invariant.run tokens actions member (List.mem_of_getElem? found)
  let drainage := drain origin (Line.groups .empty (bodyOf chunks broken))
  have drained : Drained (Line.completed body broken.isNone) broken origin drainage :=
    drained_groups Line.Splitter.isClean_empty chunks broken origin
  obtain ⟨done, isFirst, all, read, bytes⟩ := drained.puts
  refine ⟨drainage.1, drainage.2, done, drains_until_end found metered stage same, isFirst, read,
    bytes, ?_⟩
  intro client dialogue whole buffered
  have collected : whole = some (bodyOf chunks broken).collect :=
    Client.readBody_eq_collect same 0 dialogue
  refine ⟨collected, ?_, ?_⟩
  all_goals rw [collect_bodyOf] at collected
  · rintro rfl
    have isWhole : buffered = some (ofBody body) := congrArg (Option.map _) collected
    refine ⟨collected, ?_⟩
    simpa only [isWhole, Option.some.injEq] using drained.agrees_with_whole isFirst all read
  · rintro fault rfl
    exact ⟨collected, drained.broke_or_spoiled⟩

/-- A body of two lines, cut amid the first one and without a newline at its end, is put as a
whole. -/
theorem streamed_and_buffered_bodies_agree_of_two_lines :
    let chunks := ["\x7b\"header\":\x7b\"num", "", "ber\":7\x7d\x7d\n \n\x7b\"header\":",
      "\x7b\"number\":8\x7d\x7d"].map Bytes.ofString
    let parts := chunks.map fun chunk => (⟨0, .data chunk⟩ : Timed Item)
    let portal := Portal.scripted [] [⟨0, .ok ⟨200, some parts⟩⟩]
    let fleet := (create .empty).run
      (.opened ⟨"", "", {}⟩ portal (.ofSelection (.empty .evm)) {} ::
        List.replicate 4 (.proceed 0))
    ∃ (member : Member) (puts : List Portion) (outcome : Except Fault UInt64),
      fleet.members[0]? = some member ∧
      member.feed.stage = .reading 0 ⟨0, 0, .empty, 0, parts, false⟩ ∧
      (blocksOf puts).map Block.number = [7, 8] ∧
      bytesOf puts = 46 ∧
      outcome = .ok 9 := by
  intro chunks parts portal fleet
  have shape : fleet.members.map (fun member => member.feed.stage.reading?) =
      [some (0, ⟨0, 0, .empty, 0, parts, false⟩)] := by
    decide +kernel
  obtain ⟨member, found, isReading⟩ := exists_of_observed shape
  have stage := Stage.eq_reading isReading
  obtain ⟨puts, outcome, done, -, -, -, bytes, agree⟩ :=
    streamed_and_buffered_bodies_agree .empty _ 0 member 0 0 parts chunks none found stage rfl
  obtain ⟨-, whole, -⟩ := agree ⟨"", "", {}⟩ .start
  obtain ⟨collected, outcomes⟩ := whole rfl
  simp only [collected, Option.map_some, Except.bind, Client.blocksOf_ok, Option.some.injEq]
    at outcomes
  have numbers : (ofBody chunks.flatten).toOption.map (·.map Block.number) = some [7, 8] := by
    decide +kernel
  have size : Ndjson.sizeOf (Line.pieces chunks.flatten) = 46 := by decide +kernel
  rcases outcomes with ⟨values, cursor, read, rfl, rfl, rfl, -, follows⟩ | spoiled
  · rw [read] at numbers
    have isNumbers : (blocksOf puts).map Block.number = [7, 8] := Option.some.inj numbers
    refine ⟨member, puts, .ok cursor, found, stage, isNumbers, bytes.trans size, ?_⟩
    obtain ⟨last, isLast, isEight⟩ : ∃ last, (blocksOf puts).getLast? = some last ∧
        last.number = 8 := by
      have lasts := congrArg List.getLast? isNumbers
      rw [List.getLast?_map] at lasts
      exact Option.map_eq_some_iff.mp lasts
    have behind := follows last isLast
    have isNine : cursor.toNat = (9 : UInt64).toNat := by
      simpa [isEight, UInt64.size] using behind
    rw [UInt64.toNat_inj.mp isNine]
  · obtain ⟨_, _, _, _, -, -, -, -, read, -⟩ := spoiled
    rw [read] at numbers
    cases numbers

/-- Behind the block with the greatest number, the loop stands at that number and not at the
one that follows it. -/
theorem cursor_stays_at_greatest_block :
    let line := Bytes.ofString "\x7b\"header\":\x7b\"number\":18446744073709551615\x7d\x7d\n"
    let portal := Portal.scripted [] [⟨0, .ok ⟨200, some [⟨0, .data line⟩]⟩⟩]
    let query := Query.ofSelection (.empty .evm)
    let fleet := (create .empty).run
      (.opened ⟨"", "", {}⟩ portal query {} :: List.replicate 4 (.proceed 0))
    let greatest := UInt64.size - 1
    ∃ member later : Member,
      fleet.members[0]? = some member ∧
      member.feed.stage = .reading 0 ⟨0, 0, .empty, 0, [⟨0, .data line⟩], false⟩ ∧
      (fleet.run (List.replicate 2 (.proceed 0))).members[0]? = some later ∧
      later.feed.stage = .turning ∧
      (blocksOf later.feed.puts).map (·.number.toNat) = [greatest] ∧
      later.feed.cursor.toNat = greatest ∧
      later.feed.cursor.toNat ≠ greatest + 1 := by
  intro line portal query fleet greatest
  have reads : fleet.members.map (fun member => member.feed.stage.reading?) =
      [some (0, ⟨0, 0, .empty, 0, [⟨0, .data line⟩], false⟩)] := by
    decide +kernel
  have behind : (fleet.run (List.replicate 2 (.proceed 0))).members.map (fun later =>
      (later.feed.stage matches .turning, (blocksOf later.feed.puts).map (·.number.toNat),
        later.feed.cursor.toNat)) = [(true, [greatest], greatest)] := by
    decide +kernel
  obtain ⟨member, found, isReading⟩ := exists_of_observed reads
  obtain ⟨later, isLater, seen⟩ := exists_of_observed behind
  simp only [Prod.mk.injEq] at seen
  obtain ⟨turning, numbers, cursor⟩ := seen
  refine ⟨member, later, found, Stage.eq_reading isReading, isLater, ?_, numbers, cursor, ?_⟩
  · cases stage : later.feed.stage <;> simp_all
  · rw [cursor]
    exact Nat.ne_of_lt (Nat.lt_succ_self greatest)

end Fleet
end BlockFeed
