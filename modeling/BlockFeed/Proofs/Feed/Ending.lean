import BlockFeed.Proofs.Feed.Account
import BlockFeed.Proofs.Feed.Clock

/-!
# How a feed ends for its consumer

Once nothing is put into the buffer of a feed any more, it is settled what a
consumer who goes on asking gets: the blocks that are pending as one last batch, or
the fault that ended the feed, and then the end. When the buffer has ended, no
question has to wait, so that two of them bring all of it.
-/

namespace BlockFeed
namespace Feed

/-- The batch that is made of what is pending, if anything is. -/
def lastBatch (feed : Feed) : List Yield :=
  (feed.buffer.pending.map fun unit => .batch (feed.batchOf unit.blocks)).toList

/-- What the buffer has for a consumer if nothing is put into it any more. -/
def closing (feed : Feed) : List Yield :=
  match feed.buffer.phase with
  | .failed report => (report.map Yield.failed).toList ++ [.ended]
  | _ => feed.lastBatch ++ [.ended]

/-- What the consumer still gets if nothing is put into the buffer any more. -/
def remainder (feed : Feed) : List Yield :=
  match feed.consumer with
  | .over => []
  | .gone => []
  | .warned => [.ended]
  | _ => feed.closing

variable {feed next : Feed} {now : Instant} {result : Option Yield}

theorem closing_of_not_failed (notFailed : ∀ report, feed.buffer.phase ≠ .failed report) :
    feed.closing = feed.lastBatch ++ [.ended] := by
  unfold closing
  split
  · next report failed => exact absurd failed (notFailed report)
  · rfl

theorem length_closing_le (feed : Feed) : feed.closing.length ≤ 2 := by
  unfold closing
  split
  · next report _ => cases report <;> simp
  · unfold lastBatch
    cases feed.buffer.pending <;> simp

theorem length_remainder_le (feed : Feed) : feed.remainder.length ≤ 2 := by
  unfold remainder
  split
  · exact Nat.zero_le _
  · exact Nat.zero_le _
  · simp
  · exact feed.length_closing_le

theorem AsksUntil.remainder_eq
    {deadline : Option Instant}
    (asks : feed.AsksUntil now deadline) :
    feed.remainder = feed.closing := by
  rcases asks with ⟨idle, _⟩ | ⟨wake, waiting⟩
  · simp only [remainder, idle]
  · simp only [remainder, waiting]

/-! ## Asking -/

/-- What the consumer gets is the beginning of what was left for it. -/
theorem Polling.remainder_eq (polling : feed.Polling now result next) :
    result = some .overflow ∨ feed.remainder = result.toList ++ next.remainder := by
  cases polling with
  | unrepresentable => exact .inl rfl
  | overflowed => exact .inl rfl
  | took deadline blocks rest asks taking =>
      refine .inr ?_
      rw [asks.remainder_eq]
      cases taking with
      | remainder unit closed pending =>
          simp [closing, lastBatch, remainder, handedOut, record, closed, pending]
      | release unit idle running pending =>
          simp [closing, lastBatch, remainder, handedOut, record, Buffer.drained, running,
            pending]
  | ended deadline rest asks taking =>
      refine .inr ?_
      rw [asks.remainder_eq]
      cases taking with
      | silent failed => simp [closing, remainder, handedOut, failed]
      | ended closed nothing => simp [closing, lastBatch, remainder, handedOut, closed, nothing]
  | failed deadline fault rest asks taking =>
      refine .inr ?_
      rw [asks.remainder_eq]
      cases taking with
      | reported _ failed => simp [closing, remainder, handedOut, failed]
  | waited deadline wake rest asks taking =>
      refine .inr ?_
      rw [asks.remainder_eq]
      cases taking with
      | waiting => rfl
  | warned isWarned => exact .inr (by simp [remainder, handedOut, isWarned])
  | silent => exact .inr rfl

/-- When the buffer has ended, asking brings something as long as anything is left. -/
theorem Polling.remainder_of_ended
    (polling : feed.Polling now result next)
    (ended : feed.buffer.phase ≠ .running) :
    result = some .overflow ∨ next.remainder = feed.remainder.tail := by
  rcases polling.remainder_eq with overflow | split
  · exact .inl overflow
  · refine .inr ?_
    cases result with
    | some given => simp [split]
    | none =>
        cases polling with
        | waited deadline wake rest asks taking =>
            cases taking with
            | waiting idle running => exact absurd running ended
        | silent isOver =>
            rcases isOver with wasTold | gone
            · simp [remainder, wasTold]
            · simp [remainder, gone]

/-! ## What the consumer gets -/

/-- The consumer has got a part of `given`, and the rest is left for it unless it has
gone. All this is undone if its timers lie beyond the end of the clock. -/
def WindsUp (feed : Feed) (given : List Yield) : Prop :=
  .overflow ∈ feed.yields ∨ feed.yields ++ feed.remainder = given ∨
    (feed.consumer = .gone ∧ feed.yields <+: given)

/-- The loop has ended and no more than `count` answers are left for the consumer. -/
def Nears (feed : Feed) (count : Nat) : Prop :=
  .overflow ∈ feed.yields ∨
    (feed.stage = .finished ∧ feed.buffer.phase ≠ .running ∧ feed.remainder.length ≤ count)

section windsUp

variable {given : List Yield} {count : Nat}

theorem WindsUp.poll (winds : feed.WindsUp given) (polling : feed.Polling now result next) :
    next.WindsUp given := by
  rcases polling.remainder_eq with overflow | split
  · exact .inl (by simp [polling.yields, overflow])
  · rcases winds with overflow | whole | ⟨gone, isPrefix⟩
    · exact .inl (by simp [polling.yields, overflow])
    · refine .inr (.inl ?_)
      rw [polling.yields, List.append_assoc, ← split, whole]
    · refine .inr (.inr ?_)
      have silent : result = none ∧ next = feed := by
        cases polling <;> simp_all [AsksUntil]
      rw [silent.2]
      exact ⟨gone, isPrefix⟩

theorem WindsUp.leave (winds : feed.WindsUp given) : feed.leave.WindsUp given := by
  rcases winds with overflow | whole | gone
  · exact .inl overflow
  · exact .inr (.inr ⟨rfl, ⟨feed.remainder, whole⟩⟩)
  · exact .inr (.inr ⟨rfl, gone.2⟩)

/-- A step of the loop that leaves what is left for the consumer as it is. -/
theorem WindsUp.proceed
    (winds : feed.WindsUp given)
    (feeding : feed.Feeding now next)
    (closing : next.closing = feed.closing) :
    next.WindsUp given := by
  have remainder : next.remainder = feed.remainder := by
    rw [Feed.remainder, feeding.consumer, closing, Feed.remainder]
  rw [WindsUp, feeding.yields, feeding.consumer, remainder]
  exact winds

/-- What the consumer got since is a part of what was left for it. -/
theorem WindsUp.got
    {earlier : List Yield}
    (winds : feed.WindsUp (earlier ++ given))
    (grown : earlier <+: feed.yields) :
    ∃ got, feed.yields = earlier ++ got ∧
      (.overflow ∈ feed.yields ∨
        (got <+: given ∧
          (feed.remainder = [] -> feed.consumer = .gone ∨ got = given))) := by
  obtain ⟨got, yields⟩ := grown
  refine ⟨got, yields.symm, ?_⟩
  rcases winds with overflow | whole | ⟨gone, isPrefix⟩
  · exact .inl overflow
  · rw [← yields, List.append_assoc, List.append_cancel_left_eq] at whole
    refine .inr ⟨⟨feed.remainder, whole⟩, fun nothingLeft => .inr ?_⟩
    rwa [nothingLeft, List.append_nil] at whole
  · rw [← yields, List.prefix_append_right_inj] at isPrefix
    exact .inr ⟨isPrefix, fun _ => .inl gone⟩

/-- A buffer that has ended stays so when the consumer asks. -/
theorem Polling.stays_ended
    (polling : feed.Polling now result next)
    (ended : feed.buffer.phase ≠ .running) :
    next.buffer.phase ≠ .running := by
  rcases polling.moves with ⟨same, _⟩ | ⟨_, failed, _⟩
  · rwa [same]
  · simp [failed]

/-- Two answers at most are left when the loop has ended. -/
theorem nears_of_ended
    (finished : feed.stage = .finished)
    (ended : feed.buffer.phase ≠ .running) :
    feed.Nears 2 :=
  .inr ⟨finished, ended, feed.length_remainder_le⟩

theorem Nears.nothing_left (nears : feed.Nears 0) (noOverflow : .overflow ∉ feed.yields) :
    feed.remainder = [] := by
  obtain ⟨_, _, nothingLeft⟩ := nears.resolve_left noOverflow
  exact List.length_eq_zero_iff.mp (Nat.le_zero.mp nothingLeft)

theorem Nears.poll (nears : feed.Nears (count + 1)) (polling : feed.Polling now result next) :
    next.Nears count := by
  rcases nears with overflow | ⟨finished, ended, bound⟩
  · exact .inl (by simp [polling.yields, overflow])
  · rcases polling.remainder_of_ended ended with overflow | tail
    · exact .inl (by simp [polling.yields, overflow])
    · refine .inr ⟨polling.looking.stage.trans finished, polling.stays_ended ended, ?_⟩
      rw [tail, List.length_tail]
      omega

end windsUp

/-! ## Consumers of running buffers -/

/-- The consumer has got nothing but batches, unless its timers lay beyond the end of the
clock. -/
structure Flowing (feed : Feed) : Prop where
  batches : ∀ given ∈ feed.yields, given = .overflow ∨ given.batch?.isSome = true
  notWarned : feed.consumer ≠ .warned
  isOver : feed.consumer = .over -> .overflow ∈ feed.yields

namespace Flowing

theorem proceed (flowing : feed.Flowing) (feeding : feed.Feeding now next) : next.Flowing where
  batches := by
    rw [feeding.yields]
    exact flowing.batches
  notWarned := by
    rw [feeding.consumer]
    exact flowing.notWarned
  isOver := by
    rw [feeding.consumer, feeding.yields]
    exact flowing.isOver

/-- Handing out a batch, or saying that the timers overflow, changes nothing of this. -/
theorem handedOut
    (flowing : feed.Flowing)
    {given : Yield} {consumer : Consumer} (buffer : Buffer Block)
    (allowed : given = .overflow ∨ (given.batch?.isSome = true ∧ consumer = .idle))
    (notWarned : consumer ≠ .warned) :
    (feed.handedOut now given consumer buffer).Flowing := by
  have yields : (feed.handedOut now given consumer buffer).yields = feed.yields ++ [given] :=
    feed.yields_record now (.yielded given)
  refine ⟨?_, notWarned, ?_⟩
  · intro got mem
    rw [yields] at mem
    rcases List.mem_append.mp mem with isOld | isNew
    · exact flowing.batches got isOld
    · rw [List.mem_singleton.mp isNew]
      exact allowed.imp id And.left
  · intro isOver
    rw [yields]
    rcases allowed with rfl | ⟨_, idle⟩
    · exact List.mem_append_right _ (List.mem_singleton.mpr rfl)
    · exact absurd (isOver.symm.trans idle) nofun

/-- As long as the buffer is running, asking brings nothing else. -/
theorem poll
    (flowing : feed.Flowing)
    (running : feed.buffer.phase = .running)
    (polling : feed.Polling now result next) :
    next.Flowing := by
  cases polling with
  | unrepresentable => exact flowing.handedOut _ (.inl rfl) nofun
  | took => exact flowing.handedOut _ (.inr ⟨rfl, rfl⟩) nofun
  | ended deadline rest _ taking =>
      cases taking with
      | silent failed => exact absurd (running.symm.trans failed) nofun
      | ended closed => exact absurd (running.symm.trans closed) nofun
  | failed deadline fault rest _ taking =>
      cases taking with
      | reported _ failed => exact absurd (running.symm.trans failed) nofun
  | overflowed => exact flowing.handedOut _ (.inl rfl) nofun
  | waited => exact ⟨flowing.batches, nofun, nofun⟩
  | warned isWarned => exact absurd isWarned flowing.notWarned
  | silent => exact flowing

/-- Such a consumer has got an overflow only if one of its timers overshoots. -/
theorem overran_or_batch
    (flowing : feed.Flowing)
    (timely : feed.Timely now)
    {given : Yield}
    (got : given ∈ feed.yields) :
    (given = .overflow ∧ feed.Overran now) ∨ given.batch?.isSome = true :=
  (flowing.batches given got).imp_left fun isOverflow =>
    ⟨isOverflow, timely.overran (isOverflow ▸ got)⟩

/-- What is left for such a consumer is what the buffer has for it. -/
theorem windsUp (flowing : feed.Flowing) : feed.WindsUp (feed.yields ++ feed.closing) := by
  cases consumer : feed.consumer with
  | idle => exact .inr (.inl (by simp [remainder, consumer]))
  | waiting deadline wake => exact .inr (.inl (by simp [remainder, consumer]))
  | warned => exact absurd consumer flowing.notWarned
  | gone => exact .inr (.inr ⟨consumer, List.prefix_append _ _⟩)
  | _ => exact .inl (flowing.isOver consumer)

end Flowing

/-- The consumer of a running buffer gets nothing but batches. -/
theorem flowing_invariant :
    Fleet.Invariant fun feed _ _ => feed.buffer.phase = .running -> feed.Flowing where
  opened _ _ _ _ _ _ := ⟨nofun, nofun, nofun⟩
  proceeds {feed now cancelled next} flowing proceeding running := by
    have wasRunning : feed.buffer.phase = .running :=
      Decidable.byContradiction fun ended =>
        ended ((proceeding.feeding.buffer.of_ended ended).1.symm.trans running)
    exact (flowing wasRunning).proceed proceeding.feeding
  polls {feed now cancelled result next} flowing polling running := by
    have wasRunning : feed.buffer.phase = .running :=
      Decidable.byContradiction fun ended => polling.stays_ended ended running
    exact (flowing wasRunning).poll wasRunning polling
  leaves flowing running := ⟨(flowing running).batches, nofun, nofun⟩
  calledOff flowing := flowing
  later _ flowing := flowing

/-- Until the loop has ended, the buffer is running. -/
theorem Conserves.running
    {cancelled : Bool}
    (conserves : feed.Conserves cancelled)
    (unfinished : feed.stage ≠ .finished) :
    feed.buffer.phase = .running := by
  rcases conserves.settled_or_underway with ⟨finished, _⟩ | ⟨ahead, underway⟩
  · exact absurd finished unfinished
  · exact underway.running

/-! ## Feeds whose loop has ended -/

/-- The loop has ended and dealt with its portal as `entries` say, and the consumer gets
`given`. -/
structure Concluded (feed : Feed) (entries : List Entry) (given : List Yield) : Prop where
  finished : feed.stage = .finished
  ended : feed.buffer.phase ≠ .running
  dealings : feed.dealings = entries
  winds : feed.WindsUp given

/-- Once the loop has finished, it stays so. -/
theorem finished_lasting : Fleet.Lasting fun feed _ _ => feed.stage = .finished where
  proceeds finished proceeding := absurd finished proceeding.unfinished
  polls finished polling := polling.looking.stage.trans finished
  leaves finished := finished
  calledOff finished := finished
  later _ finished := finished

/-- Once the loop has ended, nothing changes what the consumer gets. -/
theorem concluded_lasting (entries : List Entry) (given : List Yield) :
    Fleet.Lasting fun feed _ _ => feed.Concluded entries given where
  proceeds concluded proceeding := absurd concluded.finished proceeding.unfinished
  polls concluded polling :=
    { finished := polling.looking.stage.trans concluded.finished
      ended := polling.stays_ended concluded.ended
      dealings := polling.dealings.trans concluded.dealings
      winds := concluded.winds.poll polling }
  leaves concluded :=
    ⟨concluded.finished, concluded.ended, concluded.dealings, concluded.winds.leave⟩
  calledOff concluded := concluded
  later _ concluded := concluded

/-- Nothing adds to what is left for the consumer. -/
theorem nears_lasting (count : Nat) : Fleet.Lasting fun feed _ _ => feed.Nears count where
  proceeds nears proceeding := by
    rcases nears with overflow | ⟨finished, _⟩
    · refine .inl ?_
      rw [proceeding.feeding.yields]
      exact overflow
    · exact absurd finished proceeding.unfinished
  polls {feed now cancelled result next} nears polling := by
    rcases nears with overflow | ⟨finished, ended, bound⟩
    · exact .inl (by simp [polling.yields, overflow])
    · have more : feed.Nears (count + 1) := .inr ⟨finished, ended, by omega⟩
      exact more.poll polling
  leaves nears := by
    rcases nears with overflow | ⟨finished, ended, _⟩
    · exact .inl overflow
    · exact .inr ⟨finished, ended, Nat.zero_le _⟩
  calledOff nears := nears
  later _ nears := nears

/-- What the consumer got stays. -/
theorem yields_lasting (earlier : List Yield) :
    Fleet.Lasting fun feed _ _ => earlier <+: feed.yields where
  proceeds got proceeding := by
    rw [proceeding.feeding.yields]
    exact got
  polls got polling := by
    rw [polling.yields]
    exact got.trans (List.prefix_append _ _)
  leaves got := got
  calledOff got := got
  later _ got := got

end Feed

namespace Fleet

variable {fleet : Fleet} {index : Nat} {member : Member}

section stepped

variable {motive : Feed -> Instant -> Bool -> Prop}

/-- If all that the loop can do is to end, it has ended after a step. -/
theorem finished_of_step
    (lasting : Lasting motive)
    (ends : ∀ {feed : Feed} {now : Instant} {cancelled : Bool}, motive feed now cancelled ->
      feed.stage ≠ .finished ->
      ∃ next, feed.proceed? now cancelled = some next ∧ next.stage = .finished)
    (found : fleet.members[index]? = some member)
    (holds : motive member.feed fleet.now (fleet.isCancelled member)) :
    ∃ after, (fleet.act (.proceed index)).members[index]? = some after ∧
      motive after.feed (fleet.act (.proceed index)).now
        ((fleet.act (.proceed index)).isCancelled after) ∧
      after.feed.stage = .finished := by
  have acting := acting_act fleet (.proceed index)
  by_cases finished : member.feed.stage = .finished
  · obtain ⟨after, isAfter, _, stillHolds⟩ :=
      (lasting.and Feed.finished_lasting).act found ⟨holds, finished⟩ acting
    exact ⟨after, isAfter, stillHolds⟩
  · obtain ⟨next, proceeds, nowFinished⟩ := ends holds finished
    obtain ⟨after, isAfter, _, stillHolds⟩ := lasting.act found holds acting
    refine ⟨after, isAfter, stillHolds, ?_⟩
    rw [act_proceed found proceeds, getElem?_update, if_pos rfl, found, Option.map_some]
      at isAfter
    rw [← Option.some.inj isAfter]
    exact nowFinished

/-- If all that the loop can do is to end, it has ended after every run in which it took a
step. -/
theorem finished_of_stepped
    (lasting : Lasting motive)
    (ends : ∀ {feed : Feed} {now : Instant} {cancelled : Bool}, motive feed now cancelled ->
      feed.stage ≠ .finished ->
      ∃ next, feed.proceed? now cancelled = some next ∧ next.stage = .finished)
    (found : fleet.members[index]? = some member)
    (holds : motive member.feed fleet.now (fleet.isCancelled member))
    {more : List Action}
    (stepped : .proceed index ∈ more) :
    ∃ later, (fleet.run more).members[index]? = some later ∧
      motive later.feed (fleet.run more).now ((fleet.run more).isCancelled later) ∧
      later.feed.stage = .finished := by
  obtain ⟨front, back, rfl⟩ := List.append_of_mem stepped
  obtain ⟨before, isBefore, _, holdsBefore⟩ := lasting.run found holds front
  obtain ⟨after, isAfter, holdsAfter⟩ := finished_of_step lasting ends isBefore holdsBefore
  obtain ⟨later, isLater, _, holdsLater⟩ :=
    (lasting.and Feed.finished_lasting).run isAfter holdsAfter back
  rw [run_append, run_cons]
  exact ⟨later, isLater, holdsLater⟩

end stepped

/-- As many questions as there are answers left bring all of them. -/
theorem nears_of_polls
    (count : Nat)
    (found : fleet.members[index]? = some member)
    (nears : member.feed.Nears count)
    {more : List Action}
    (asks : (List.replicate count (.poll index)).Sublist more) :
    ∃ later, (fleet.run more).members[index]? = some later ∧ later.feed.Nears 0 := by
  induction count generalizing fleet member more with
  | zero =>
      obtain ⟨later, isLater, _, holds⟩ := (Feed.nears_lasting 0).run found nears more
      exact ⟨later, isLater, holds⟩
  | succ count inductionHypothesis =>
      rw [List.replicate_succ, List.cons_sublist_iff] at asks
      obtain ⟨front, back, rfl, isAsked, asksBehind⟩ := asks
      obtain ⟨before, between, rfl⟩ := List.append_of_mem isAsked
      obtain ⟨asking, isAsking, _, stillNears⟩ :=
        (Feed.nears_lasting (count + 1)).run found nears before
      have answered := stillNears.poll
        (Feed.polling_poll asking.feed (fleet.run before).now)
      have isAnswered : ((fleet.run before).act (.poll index)).members[index]? =
          some { asking with feed := (asking.feed.poll (fleet.run before).now).2 } := by
        rw [act_poll isAsking, getElem?_update, if_pos rfl, isAsking, Option.map_some]
      rw [List.append_assoc, run_append, List.cons_append, run_cons]
      exact inductionHypothesis isAnswered answered
        (List.sublist_append_of_sublist_right asksBehind)

/-- After the end of the loop, the portal hears nothing more. The consumer gets a part of
what was left for it, and all of it if it asks twice and has not gone; unless one of its
timers overshoots. -/
theorem concludes
    {entries : List Feed.Entry} {earlier given : List Feed.Yield}
    (found : fleet.members[index]? = some member)
    (concluded : member.feed.Concluded entries (earlier ++ given))
    (grown : earlier <+: member.feed.yields)
    (timely : member.feed.Timely fleet.now)
    (more : List Action) :
    ∃ later, (fleet.run more).members[index]? = some later ∧
      later.feed.dealings = entries ∧
      ∃ got, later.feed.yields = earlier ++ got ∧
        (later.feed.Overran (fleet.run more).now ∨
          (got <+: given ∧
            (later.feed.consumer ≠ .gone -> [.poll index, .poll index].Sublist more ->
              got = given))) := by
  have lasting := ((Feed.concluded_lasting entries (earlier ++ given)).and
    (Feed.yields_lasting earlier)).and Feed.timely_invariant.toLasting
  obtain ⟨later, isLater, _, ⟨stillConcluded, stillGrown⟩, stillTimely⟩ :=
    lasting.run found ⟨⟨concluded, grown⟩, timely⟩ more
  obtain ⟨got, yields, outcome⟩ := stillConcluded.winds.got stillGrown
  refine ⟨later, isLater, stillConcluded.dealings, got, yields, ?_⟩
  by_cases overflow : .overflow ∈ later.feed.yields
  · exact .inl (stillTimely.overran overflow)
  · obtain ⟨isPrefix, whole⟩ := outcome.resolve_left overflow
    refine .inr ⟨isPrefix, fun stays asks => ?_⟩
    obtain ⟨same, isSame, answered⟩ := nears_of_polls 2 found
      (Feed.nears_of_ended concluded.finished concluded.ended) asks
    obtain rfl : later = same := Option.some.inj (isLater.symm.trans isSame)
    exact (whole (answered.nothing_left overflow)).resolve_left stays

end Fleet
end BlockFeed
