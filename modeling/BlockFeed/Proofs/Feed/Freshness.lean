import BlockFeed.Proofs.Feed.Backpressure
import BlockFeed.Proofs.Feed.Tips
import BlockFeed.Proofs.Fleet.Chronicle

/-!
# How fresh the tips are

The chronicle of a feed tells which heights its loop has learned and when. The cache holds
the height that was learned last, with the instant at which its fetch was complete. In each
round the loop asks for the height if it has learned none yet or if the refresh interval has
passed since then, and otherwise recalls the one from the cache; the tip that it comes to
know in one of these ways is the one for which it posts the query of this round.

An answer that is no height is not learned. The loop ends when it hears it: the feed fails,
unless the portal said that the request was called off, which closes the feed instead.
-/

namespace BlockFeed
namespace Feed

/-! ## What chronicles tell -/

/-- The tip that was learned, and when. -/
def Milestone.learned? (milestone : Milestone) : Option (Instant × BlockRef) :=
  match milestone.deed with
  | .learned tip => some (milestone.instant, tip)
  | _ => none

/-- Whether the height was asked for. -/
def Milestone.isAsked (milestone : Milestone) : Bool :=
  match milestone.deed with
  | .asked => true
  | _ => false

/-- What is asked of a portal. -/
inductive Inquiry
  | height
  | query
  deriving DecidableEq

/-- What was asked of the portal, and when. -/
def Milestone.inquiry? (milestone : Milestone) : Option (Instant × Inquiry) :=
  match milestone.deed with
  | .asked => some (milestone.instant, .height)
  | .posted _ => some (milestone.instant, .query)
  | _ => none

/-- What was asked of the portal, and when, as the log tells it. -/
def Entry.inquiry? (entry : Entry) : Option (Instant × Inquiry) :=
  match entry.event with
  | .asked _ => some (entry.instant, .height)
  | .posted _ _ => some (entry.instant, .query)
  | _ => none

/-- What was asked of the portal, the first first. -/
def inquiries (feed : Feed) : List (Instant × Inquiry) :=
  feed.log.filterMap Entry.inquiry?

/-- The tip that was learned last, and when. -/
def latest? (chronicle : List Milestone) : Option (Instant × BlockRef) :=
  (chronicle.filterMap Milestone.learned?).getLast?

/-- How often the height was asked for. -/
def fetches (chronicle : List Milestone) : Nat :=
  chronicle.countP Milestone.isAsked

/-- At an instant, no height has been learned yet, or the last one at least an interval
ago. -/
def IsStale (chronicle : List Milestone) (interval : Duration) (now : Instant) : Prop :=
  ∀ fetched tip, latest? chronicle = some (fetched, tip) -> fetched + interval ≤ now

/-- What comes next in a chronicle follows from what came before. -/
def Follows (portal : Portal) (interval : Duration) (earlier : List Milestone)
    (milestone : Milestone) : Prop :=
  match milestone.deed with
  | .turned => True
  | .asked => IsStale earlier interval milestone.instant
  | .recalled tip =>
      ∃ fetched, latest? earlier = some (fetched, tip) ∧ milestone.instant < fetched + interval
  | .learned tip =>
      -- The height was asked for just before, and this is what the portal answered.
      ∃ since count height, earlier.getLast? = some ⟨since, .asked⟩ ∧
        fetches earlier = count + 1 ∧
        since + (portal.height count).delay ≤ milestone.instant ∧
        (portal.height count).content.outcome.bind Height.parse = .ok height ∧
        tip = ⟨height, ""⟩
  | .posted tip =>
      -- The tip was resolved just before, and is the one that was learned last.
      (∃ resolved, earlier.getLast? = some resolved ∧
        (resolved.deed = .learned tip ∨ resolved.deed = .recalled tip)) ∧
      ∃ fetched, latest? earlier = some (fetched, tip)

section chronicle

variable (chronicle : List Milestone) (instant : Instant)

theorem latest?_learned (tip : BlockRef) :
    latest? (chronicle ++ [⟨instant, .learned tip⟩]) = some (instant, tip) := by
  simp [latest?, List.filterMap_append, Milestone.learned?]

theorem latest?_append {milestone : Milestone} (learned : milestone.learned? = none) :
    latest? (chronicle ++ [milestone]) = latest? chronicle := by
  simp [latest?, List.filterMap_append, learned]

theorem fetches_append (milestone : Milestone) :
    fetches (chronicle ++ [milestone]) =
      fetches chronicle + if milestone.isAsked then 1 else 0 := by
  rw [fetches, List.countP_append, List.countP_singleton, fetches]

end chronicle

/-! ## The loop and its chronicle -/

/-- The loop is where its chronicle says. -/
def InPlace (feed : Feed) (chronicle : List Milestone) : Prop :=
  match feed.stage with
  | .asking since answer =>
      chronicle.getLast? = some ⟨since, .asked⟩ ∧
        ∃ count, feed.asked = count + 1 ∧ answer = feed.plan.portal.height count
  | .resolved tip =>
      (∃ resolved, chronicle.getLast? = some resolved ∧
        (resolved.deed = .learned tip ∨ resolved.deed = .recalled tip)) ∧
      ∃ fetched, latest? chronicle = some (fetched, tip)
  | _ => True

/-- The loop knows what its chronicle tells, and each of its deeds followed from what came
before. -/
structure Informed (feed : Feed) (now : Instant) (chronicle : List Milestone) : Prop where
  follows : ∀ earlier milestone later, chronicle = earlier ++ milestone :: later ->
    Follows feed.plan.portal feed.cache.interval earlier milestone
  cache : latest? chronicle =
    feed.cache.last.map fun (fetched, height) => (fetched, ⟨height, ""⟩)
  past : ∀ fetched height, feed.cache.last = some (fetched, height) -> fetched ≤ now
  asked : fetches chronicle = feed.asked
  inquiries : chronicle.filterMap Milestone.inquiry? = feed.inquiries
  inPlace : feed.InPlace chronicle

variable {feed next : Feed} {now : Instant} {cancelled : Bool} {chronicle : List Milestone}

theorem inPlace_of_resting (resting : feed.stage.isRequesting = false) :
    feed.InPlace chronicle := by
  unfold InPlace
  split
  · next asking => simp [asking, Stage.isRequesting] at resting
  · next resolved => simp [resolved, Stage.isRequesting] at resting
  · trivial

/-- Whatever asks for nothing leaves the inquiries as they are. -/
theorem Notes.inquiries (notes : feed.Notes next now) : next.inquiries = feed.inquiries := by
  refine notes.filterMap_log fun event noRequest => ?_
  cases event with
  | asked => cases noRequest
  | posted => cases noRequest
  | _ => rfl

theorem inquiries_record (feed : Feed) (now : Instant) (event : Event) :
    (feed.record now event).inquiries =
      feed.inquiries ++ (Entry.inquiry? ⟨now, event⟩).toList := by
  rw [inquiries, record, List.filterMap_append]
  cases event <;> rfl

/-- A step of the loop that leads to no request only tells that a round begins. -/
theorem deed?_of_resting
    {next : Stage}
    (resting : next.isRequesting = false)
    (stage : Stage) :
    stage.deed? next = none ∨ stage.deed? next = some .turned := by
  cases next <;> cases stage <;> simp_all [Stage.isRequesting, Stage.deed?]

/-- An answer is heard when it has arrived. -/
theorem Proceeding.arrived
    {since : Instant} {answer : Timed (Answer String)}
    (proceeding : feed.Proceeding now cancelled next)
    (asking : feed.stage = .asking since answer)
    (unfinished : next.stage ≠ .finished) :
    since + answer.delay ≤ now := by
  cases proceeding with
  | learned since' answer' _ stage _ arrived =>
      obtain ⟨rfl, rfl⟩ := Stage.asking.inj (asking.symm.trans stage)
      exact arrived
  | unlearned since' answer' _ stage _ arrived =>
      obtain ⟨rfl, rfl⟩ := Stage.asking.inj (asking.symm.trans stage)
      exact arrived
  | calledOff => exact absurd (feed.stage_callOff now) unfinished
  | _ => simp_all

/-- The height is asked for when nothing can be recalled. -/
theorem Proceeding.not_fresh
    {since : Instant} {answer : Timed (Answer String)}
    (proceeding : feed.Proceeding now cancelled next)
    (turning : feed.stage = .turning)
    (asking : next.stage = .asking since answer) :
    feed.cache.fresh? now = none := by
  cases proceeding with
  | asked _ _ _ notFresh => exact notFresh
  | calledOff => exact absurd ((feed.stage_callOff now).symm.trans asking) nofun
  | _ => simp_all [finish]

/-! ## What the cache recalls -/

section cache

variable {cache : Height.Cache}

/-- A height is recalled within the interval behind its fetch. -/
theorem fresh?_eq_some
    (past : ∀ fetched height, cache.last = some (fetched, height) -> fetched ≤ now)
    {height : UInt64}
    (fresh : cache.fresh? now = some height) :
    ∃ fetched, cache.last = some (fetched, height) ∧ now < fetched + cache.interval := by
  unfold Height.Cache.fresh? at fresh
  split at fresh
  · next fetched stored isLast =>
      split at fresh
      · next young =>
          obtain rfl : stored = height := Option.some.inj fresh
          have before := past fetched stored isLast
          exact ⟨fetched, isLast, (Nat.sub_lt_iff_lt_add' before).mp young⟩
      · cases fresh
  · cases fresh

/-- Nothing is recalled when the interval has passed. -/
theorem fresh?_eq_none
    (past : ∀ fetched height, cache.last = some (fetched, height) -> fetched ≤ now)
    (notFresh : cache.fresh? now = none)
    {fetched : Instant} {height : UInt64}
    (isLast : cache.last = some (fetched, height)) :
    fetched + cache.interval ≤ now := by
  have before := past fetched height isLast
  simp only [Height.Cache.fresh?, isLast] at notFresh
  split at notFresh
  · cases notFresh
  · next old =>
      exact Nat.le_of_not_lt fun young => old ((Nat.sub_lt_iff_lt_add' before).mpr young)

end cache

namespace Informed

/-- The tip that was learned last is the one in the cache. -/
theorem latest
    (informed : feed.Informed now chronicle)
    {fetched : Instant} {tip : BlockRef}
    (isLatest : latest? chronicle = some (fetched, tip)) :
    feed.cache.last = some (fetched, tip.number) ∧ tip = ⟨tip.number, ""⟩ := by
  rw [informed.cache] at isLatest
  obtain ⟨⟨instant, height⟩, isLast, same⟩ := Option.map_eq_some_iff.mp isLatest
  obtain ⟨rfl, rfl⟩ := Prod.mk.inj same
  exact ⟨isLast, rfl⟩

/-- The height that is in the cache was learned last. -/
theorem latest_of_cache
    (informed : feed.Informed now chronicle)
    {fetched : Instant} {height : UInt64}
    (isLast : feed.cache.last = some (fetched, height)) :
    latest? chronicle = some (fetched, ⟨height, ""⟩) := by
  rw [informed.cache, isLast]
  rfl

/-- Nothing can be recalled exactly if the last height has become too old. -/
theorem isStale_of_fresh
    (informed : feed.Informed now chronicle)
    (notFresh : feed.cache.fresh? now = none) :
    IsStale chronicle feed.cache.interval now := by
  intro fetched tip isLatest
  exact fresh?_eq_none informed.past notFresh (informed.latest isLatest).1

/-- A height that can be recalled was learned less than the interval ago. -/
theorem latest_of_fresh
    (informed : feed.Informed now chronicle)
    {height : UInt64}
    (fresh : feed.cache.fresh? now = some height) :
    ∃ fetched, latest? chronicle = some (fetched, ⟨height, ""⟩) ∧
      now < fetched + feed.cache.interval := by
  obtain ⟨fetched, isLast, young⟩ := fresh?_eq_some informed.past fresh
  exact ⟨fetched, informed.latest_of_cache isLast, young⟩

/-- One more deed keeps the chronicle in order if it follows. -/
theorem follows_append
    (informed : feed.Informed now chronicle)
    {milestone : Milestone}
    (isNext : Follows feed.plan.portal feed.cache.interval chronicle milestone) :
    ∀ earlier other later, chronicle ++ [milestone] = earlier ++ other :: later ->
      Follows feed.plan.portal feed.cache.interval earlier other := by
  intro earlier other later split
  rcases List.eq_nil_or_concat later with rfl | ⟨front, back, rfl⟩
  · obtain ⟨rfl, same⟩ := List.append_inj' split rfl
    exact List.singleton_inj.mp same ▸ isNext
  · rw [List.concat_eq_append, ← List.cons_append, ← List.append_assoc] at split
    exact informed.follows earlier other front (List.append_inj' split rfl).1

/-- Whoever knows the same, has asked for the same and is in place is informed as well. -/
theorem congr
    (informed : feed.Informed now chronicle)
    (plan : next.plan = feed.plan)
    (knowledge : next.knowledge = feed.knowledge)
    (inquiries : next.inquiries = feed.inquiries)
    (inPlace : next.InPlace chronicle) :
    next.Informed now chronicle := by
  have cache : next.cache = feed.cache := congrArg Knowledge.cache knowledge
  have asked : next.asked = feed.asked := congrArg Knowledge.asked knowledge
  refine ⟨?_, ?_, ?_, ?_, ?_, inPlace⟩
  · rw [plan, cache]
    exact informed.follows
  · rw [cache]
    exact informed.cache
  · rw [cache]
    exact informed.past
  · rw [asked]
    exact informed.asked
  · rw [inquiries]
    exact informed.inquiries

/-! ### Steps of the loop -/

/-- What neither learns nor asks for anything keeps the chronicle in order. -/
theorem rest
    (informed : feed.Informed now chronicle)
    (steady : feed.Steady next)
    (inquiries : next.inquiries = feed.inquiries) :
    next.Informed now (chronicle ++ feed.added next now) := by
  have cache : next.cache = feed.cache := congrArg Knowledge.cache steady.knowledge
  have asked : next.asked = feed.asked := congrArg Knowledge.asked steady.knowledge
  rcases deed?_of_resting steady.stage feed.stage with nothing | turned
  · rw [added, nothing]
    simp only [Option.map_none, Option.toList_none, List.append_nil]
    exact informed.congr steady.plan steady.knowledge inquiries (inPlace_of_resting steady.stage)
  · rw [added, turned]
    simp only [Option.map_some, Option.toList_some]
    refine ⟨?_, ?_, ?_, ?_, ?_, inPlace_of_resting steady.stage⟩
    · rw [steady.plan, cache]
      exact informed.follows_append trivial
    · rw [latest?_append _ rfl, cache]
      exact informed.cache
    · rw [cache]
      exact informed.past
    · rw [fetches_append, asked]
      exact informed.asked
    · rw [List.filterMap_append, inquiries, ← informed.inquiries]
      exact List.append_nil _

/-- Asking for the height follows when nothing can be recalled. -/
theorem askHeight
    (informed : feed.Informed now chronicle)
    (turning : feed.stage = .turning)
    (notFresh : feed.cache.fresh? now = none) :
    (feed.askHeight now false).Informed now
      (chronicle ++ feed.added (feed.askHeight now false) now) := by
  have added : feed.added (feed.askHeight now false) now = [⟨now, .asked⟩] := by
    simp [Feed.added, turning, Feed.askHeight, Stage.deed?]
  rw [added]
  refine ⟨?_, ?_, informed.past, ?_, ?_, ?_⟩
  · exact informed.follows_append (informed.isStale_of_fresh notFresh)
  · rw [latest?_append _ rfl]
    exact informed.cache
  · rw [fetches_append, informed.asked]
    rfl
  · rw [List.filterMap_append, informed.inquiries]
    exact (feed.inquiries_record now (.asked false)).symm
  · exact ⟨List.getLast?_concat, feed.asked, rfl, rfl⟩

/-- Recalling the height follows when it is young enough. -/
theorem remember
    (informed : feed.Informed now chronicle)
    (turning : feed.stage = .turning)
    {height : UInt64}
    (fresh : feed.cache.fresh? now = some height) :
    Informed { feed with stage := .resolved ⟨height, ""⟩ } now
      (chronicle ++ feed.added { feed with stage := .resolved ⟨height, ""⟩ } now) := by
  have added : feed.added { feed with stage := .resolved ⟨height, ""⟩ } now =
      [⟨now, .recalled ⟨height, ""⟩⟩] := by
    simp [Feed.added, turning, Stage.deed?]
  obtain ⟨fetched, isLatest, young⟩ := informed.latest_of_fresh fresh
  rw [added]
  refine ⟨?_, ?_, informed.past, ?_, ?_, ?_⟩
  · exact informed.follows_append ⟨fetched, isLatest, young⟩
  · rw [latest?_append _ rfl]
    exact informed.cache
  · rw [fetches_append]
    exact informed.asked
  · rw [List.filterMap_append, informed.inquiries]
    exact List.append_nil _
  · refine ⟨⟨_, List.getLast?_concat, .inr rfl⟩, fetched, ?_⟩
    rw [latest?_append _ rfl, isLatest]

/-- Learning the height follows when the portal's answer to the latest question has
arrived. -/
theorem learn
    (informed : feed.Informed now chronicle)
    {since : Instant} {answer : Timed (Answer String)} {height : UInt64}
    (asking : feed.stage = .asking since answer)
    (arrived : since + answer.delay ≤ now)
    (parsed : answer.content.outcome.bind Height.parse = .ok height) :
    Informed
      { feed with cache := feed.cache.store now height, stage := .resolved ⟨height, ""⟩ } now
      (chronicle ++ feed.added
        { feed with cache := feed.cache.store now height, stage := .resolved ⟨height, ""⟩ }
        now) := by
  have added : feed.added
      { feed with cache := feed.cache.store now height, stage := .resolved ⟨height, ""⟩ } now =
        [⟨now, .learned ⟨height, ""⟩⟩] := by
    simp [Feed.added, asking, Stage.deed?]
  have inPlace := informed.inPlace
  simp only [InPlace, asking] at inPlace
  obtain ⟨isLast, count, asked, rfl⟩ := inPlace
  rw [added]
  refine ⟨?_, latest?_learned _ _ _, ?_, ?_, ?_, ?_⟩
  · exact informed.follows_append
      ⟨since, count, height, isLast, informed.asked.trans asked, arrived, parsed, rfl⟩
  · intro fetched stored isStored
    obtain ⟨rfl, _⟩ := Prod.mk.inj (Option.some.inj isStored)
    exact Nat.le_refl _
  · rw [fetches_append]
    exact informed.asked
  · rw [List.filterMap_append, informed.inquiries]
    exact List.append_nil _
  · exact ⟨⟨_, List.getLast?_concat, .inl rfl⟩, now, latest?_learned _ _ _⟩

/-- Posting the query follows when the tip has been resolved. -/
theorem post
    (informed : feed.Informed now chronicle)
    {tip : BlockRef}
    (resolved : feed.stage = .resolved tip) :
    (feed.post now false tip).Informed now
      (chronicle ++ feed.added (feed.post now false tip) now) := by
  have added : feed.added (feed.post now false tip) now = [⟨now, .posted tip⟩] := by
    simp [Feed.added, resolved, Feed.post, Stage.deed?]
  have inPlace := informed.inPlace
  simp only [InPlace, resolved] at inPlace
  rw [added]
  refine ⟨informed.follows_append inPlace, ?_, informed.past, ?_, ?_, trivial⟩
  · rw [latest?_append _ rfl]
    exact informed.cache
  · rw [fetches_append]
    exact informed.asked
  · rw [List.filterMap_append, informed.inquiries]
    exact (feed.inquiries_record now (.posted false _)).symm

/-- Each deed of the loop follows from its chronicle. -/
theorem proceed
    (informed : feed.Informed now chronicle)
    (proceeding : feed.Proceeding now cancelled next) :
    next.Informed now (chronicle ++ feed.added next now) := by
  have inquiries : next.stage.isRequesting = false -> next.inquiries = feed.inquiries := by
    intro resting
    rcases proceeding.notes_or_request with notes | ⟨_, _, rfl⟩ | ⟨_, _, rfl⟩
    · exact notes.inquiries
    · cases resting
    · cases resting
  cases proceeding.learning with
  | asked turning => exact informed.askHeight turning (proceeding.not_fresh turning rfl)
  | recalled height turning fresh => exact informed.remember turning fresh
  | learned since answer height asking parsed =>
      exact informed.learn asking (proceeding.arrived asking nofun) parsed
  | posted tip resolved => exact informed.post resolved
  | accepted tip since answer next posting accepted steady =>
      have told : Informed { feed with tip := some tip } now chronicle :=
        ⟨informed.follows, informed.cache, informed.past, informed.asked, informed.inquiries,
          informed.inPlace⟩
      exact told.rest steady (inquiries steady.stage)
  | declined tip since answer next posting declined steady =>
      exact informed.rest steady (inquiries steady.stage)
  | ended next finished gathered steady =>
      exact informed.rest steady (inquiries steady.stage)
  | rested next resting steady => exact informed.rest steady (inquiries steady.stage)

/-! ### Everything else -/

/-- A consumer changes nothing of what the loop knows. -/
theorem look
    (informed : feed.Informed now chronicle)
    (leaves : feed.Leaves next)
    (inquiries : next.inquiries = feed.inquiries) :
    next.Informed now chronicle := by
  have asked : next.asked = feed.asked := congrArg Knowledge.asked leaves.knowledge
  refine informed.congr leaves.plan leaves.knowledge inquiries ?_
  rw [InPlace, leaves.stage, leaves.plan, asked]
  exact informed.inPlace

end Informed

theorem Polling.inquiries
    {result : Option Yield}
    (polling : feed.Polling now result next) :
    next.inquiries = feed.inquiries := by
  rw [Feed.inquiries, polling.log, List.filterMap_append]
  cases result <;> exact List.append_nil _

/-- The loop of every feed knows what its chronicle tells, at all times. -/
theorem informed_chronicled :
    Fleet.Chronicled fun feed now _ chronicle => feed.Informed now chronicle where
  opened _ _ _ _ _ :=
    { follows := fun earlier milestone later split => by simp at split
      cache := rfl
      past := nofun
      asked := rfl
      inquiries := rfl
      inPlace := trivial }
  proceeds informed proceeding := informed.proceed proceeding
  kept chronicle :=
    { polls := fun informed polling =>
        informed.look (.of_poll polling) polling.inquiries
      leaves := fun informed => informed.look ⟨looking_leave, rfl, rfl⟩ rfl
      calledOff := id
      later := fun duration informed =>
        { informed with
          past := fun fetched height isLast =>
            Nat.le_add_right_of_le (informed.past fetched height isLast) } }

/-! ## Without a height -/

/-- What the consumer gets when the loop ends by a fault: the fault, or what is pending if
this is a cancellation, and the end. -/
def farewell (feed : Feed) (fault : Fault) : List Yield :=
  (if fault.isCancelled then feed.lastBatch else [.failed fault]) ++ [.ended]

/-- A loop that ends by a fault leaves this to its consumer. -/
theorem concluded_fail
    (running : feed.buffer.phase = .running)
    (flowing : feed.Flowing)
    (fault : Fault) :
    (feed.fail fault).Concluded feed.dealings (feed.yields ++ feed.farewell fault) := by
  have phase : (feed.fail fault).buffer.phase = Buffer.endedBy fault :=
    congrArg Buffer.phase (Buffer.fail_of_running running fault)
  have closing : (feed.fail fault).closing = feed.farewell fault := by
    unfold farewell
    split
    · next isCancelled =>
        have closed : (feed.fail fault).buffer.phase = .closed := by
          rw [phase, Buffer.endedBy, if_pos isCancelled]
        have pending : (feed.fail fault).buffer.pending = feed.buffer.pending :=
          feed.buffer.pending_fail fault
        rw [closing_of_not_failed (by rw [closed]; nofun), lastBatch, pending]
        rfl
    · next notCancelled =>
        have failed : (feed.fail fault).buffer.phase = .failed (some fault) := by
          rw [phase, Buffer.endedBy, if_neg notCancelled]
        simp only [Feed.closing, failed]
        rfl
  refine ⟨rfl, by rw [phase]; exact Buffer.endedBy_ne_running fault, rfl, ?_⟩
  rw [← closing]
  exact (flowing.proceed (feed.working_fail 0 fault).toFeeding).windsUp

/-- An answer that is no height ends the loop. -/
theorem proceed?_of_no_height
    {since : Instant} {answer : Timed (Answer String)} {fault : Fault}
    (asking : feed.stage = .asking since answer)
    (arrived : since + answer.delay ≤ now)
    (failed : answer.content.outcome.bind Height.parse = .error fault) :
    feed.proceed? now false = some (feed.fail fault) := by
  have hears : feed.hearHeight now answer.content = feed.fail fault := by
    cases content : answer.content with
    | ok body =>
        have refused : Height.parse body = .error fault := by rwa [content] at failed
        simp only [hearHeight, refused]
    | failed reported =>
        rw [content] at failed
        obtain rfl : reported = fault := Except.error.inj failed
        rfl
    | crash =>
        rw [content] at failed
        obtain rfl : breakdown = fault := Except.error.inj failed
        rfl
  simp [proceed?, asking, arrived, hears]

/-- The cache of a loop that has ended stays as it is. -/
theorem cache_lasting (cache : Height.Cache) :
    Fleet.Lasting fun feed _ _ => feed.stage = .finished ∧ feed.cache = cache where
  proceeds holds proceeding := absurd holds.1 proceeding.unfinished
  polls holds polling :=
    ⟨polling.looking.stage.trans holds.1,
      (congrArg Knowledge.cache polling.knowledge).trans holds.2⟩
  leaves holds := holds
  calledOff holds := holds
  later _ holds := holds

end Feed

namespace Fleet

/-- As soon as the loop of a feed goes on, it ends by a fault. Whatever happens later, it
keeps what it has learned, asks the portal for nothing more, and leaves to its consumer the
fault, or what is pending if this is a cancellation, and the end, unless one of the
consumer's timers overshoots. -/
def EndsBy (fleet : Fleet) (index : Nat) (feed : Feed) (fault : Fault) : Prop :=
  ∃ ended, (fleet.act (.proceed index)).members[index]? = some ended ∧
    ended.feed = feed.fail fault ∧ ended.feed.buffer.phase = Buffer.endedBy fault ∧
    ∀ more, ∃ later, ((fleet.act (.proceed index)).run more).members[index]? = some later ∧
      later.feed.cache = feed.cache ∧ later.feed.dealings = feed.dealings ∧
      ∃ got, later.feed.yields = feed.yields ++ got ∧
        (later.feed.Overran ((fleet.act (.proceed index)).run more).now ∨
          (got <+: feed.farewell fault ∧
            (later.feed.consumer ≠ .gone -> [.poll index, .poll index].Sublist more ->
              got = feed.farewell fault)))

variable {fleet : Fleet} {index : Nat} {member : Member}

theorem endsBy_of_no_height
    {since : Instant} {answer : Timed (Answer String)} {fault : Fault}
    (found : fleet.members[index]? = some member)
    (running : member.feed.buffer.phase = .running)
    (flowing : member.feed.Flowing)
    (timely : member.feed.Timely fleet.now)
    (asking : member.feed.stage = .asking since answer)
    (going : fleet.isCancelled member = false)
    (arrived : since + answer.delay ≤ fleet.now)
    (failed : answer.content.outcome.bind Height.parse = .error fault) :
    fleet.EndsBy index member.feed fault := by
  have proceeds := Feed.proceed?_of_no_height asking arrived failed
  have isEnded : (fleet.act (.proceed index)).members[index]? =
      some { member with feed := member.feed.fail fault } := by
    rw [act_proceed found (going ▸ proceeds), getElem?_update, if_pos rfl, found,
      Option.map_some]
  refine ⟨_, isEnded, rfl, congrArg Buffer.phase (Buffer.fail_of_running running fault), ?_⟩
  intro more
  have working := member.feed.working_fail fleet.now fault
  have stillTimely := timely.act_proceed working.toFeeding index
  obtain ⟨later, isLater, dealings, outcome⟩ :=
    concludes isEnded (Feed.concluded_fail running flowing fault)
      ⟨[], (List.append_nil _).trans working.yields.symm⟩ stillTimely more
  obtain ⟨same, isSame, _, _, cache⟩ :=
    (Feed.cache_lasting member.feed.cache).run isEnded ⟨rfl, rfl⟩ more
  obtain rfl : later = same := Option.some.inj (isLater.symm.trans isSame)
  exact ⟨later, isLater, cache, dealings, outcome⟩

/-- How long a height is used in the feed that an action opens. -/
def Action.tipRefresh? : Action -> Option Duration
  | .opened client _ _ _ => some client.settings.tipRefresh
  | _ => none

theorem interval_constant : Constant fun feed => feed.cache.interval where
  proceeds {feed now cancelled next} proceeding := by
    have kept : ∀ {other : Feed}, other.knowledge = feed.knowledge ->
        other.cache.interval = feed.cache.interval :=
      fun knowledge => congrArg (·.cache.interval) knowledge
    cases proceeding.learning with
    | accepted tip _ _ _ _ _ steady =>
        exact congrArg (·.cache.interval) steady.knowledge
    | declined _ _ _ _ _ _ steady => exact kept steady.knowledge
    | ended _ _ _ steady => exact kept steady.knowledge
    | rested _ _ steady => exact kept steady.knowledge
    | _ => rfl
  polls polling := congrArg (·.cache.interval) polling.knowledge
  leaves _ := rfl

/-- In every run and for every refresh interval: the chronicle of a feed tells all that was
asked of the portal, and the cache holds the height that was learned last. The height was
asked for when none had been learned or the last one at least the interval ago, and each
query was posted for the tip that was resolved just before and learned last. The next round
begins in the same way. An answer that is no height ends the loop: nothing is learned and
nothing more is asked, and the feed fails by it or is closed if this is a cancellation. -/
theorem heights_are_fetched_when_stale (tokens : Tokens) (actions : List Action) :
    let fleet := (create tokens).run actions
    ∀ (index : Nat) (member : Member) (interval : Duration),
      fleet.members[index]? = some member ->
      (actions.filterMap Action.tipRefresh?)[index]? = some interval ->
      let feed := member.feed
      let chronicle := (create tokens).chronicle index actions
      chronicle.filterMap Feed.Milestone.inquiry? = feed.inquiries ∧
      Feed.latest? chronicle =
        feed.cache.last.map (fun (fetched, height) => (fetched, ⟨height, ""⟩)) ∧
      (∀ earlier milestone later, chronicle = earlier ++ milestone :: later ->
        Feed.Follows feed.plan.portal interval earlier milestone) ∧
      (feed.stage = .turning -> feed.plan.query.reaches feed.cursor = true ->
        fleet.isCancelled member = false ->
        ∃ next, feed.proceed? fleet.now (fleet.isCancelled member) = some next ∧
          ((Feed.IsStale chronicle interval fleet.now ∧
              next = feed.askHeight fleet.now false) ∨
            ∃ fetched tip, Feed.latest? chronicle = some (fetched, tip) ∧
              fleet.now < fetched + interval ∧ next = { feed with stage := .resolved tip })) ∧
      ∀ since answer fault, feed.stage = .asking since answer ->
        fleet.isCancelled member = false -> since + answer.delay ≤ fleet.now ->
        answer.content.outcome.bind Height.parse = .error fault ->
        fleet.EndsBy index feed fault := by
  intro fleet index member interval found opened feed chronicle
  have mem : member ∈ fleet.members := List.mem_of_getElem? found
  have informed := Feed.informed_chronicled.run tokens actions found
  have conserves := Feed.conserves_invariant.run tokens actions member mem
  obtain rfl : feed.cache.interval = interval :=
    interval_constant.eq_of_opened (by rintro (_ | _) <;> rfl) found opened
  refine ⟨informed.inquiries, informed.cache, informed.follows, ?_, ?_⟩
  · intro turning reaches going
    refine ⟨feed.turn fleet.now false, by simp [Feed.proceed?, turning, going], ?_⟩
    cases fresh : feed.cache.fresh? fleet.now with
    | none => exact .inl ⟨informed.isStale_of_fresh fresh, by simp [Feed.turn, reaches, fresh]⟩
    | some height =>
        obtain ⟨fetched, isLatest, young⟩ := informed.latest_of_fresh fresh
        exact .inr ⟨fetched, _, isLatest, young, by simp [Feed.turn, reaches, fresh]⟩
  · intro since answer fault asking going arrived failed
    have running := conserves.running fun finished => by cases asking.symm.trans finished
    have flowing := Feed.flowing_invariant.run tokens actions member mem running
    have timely := Feed.timely_invariant.run tokens actions member mem
    exact endsBy_of_no_height found running flowing timely asking going arrived failed

/-- What the loop sees in the answer about the height that it waits for: when it has
arrived, and the fault if it is no height. -/
def noHeight? (member : Member) : Option (Instant × Fault) :=
  match member.feed.stage with
  | .asking since answer =>
      match answer.content.outcome.bind Height.parse with
      | .error fault => some (since + answer.delay, fault)
      | .ok _ => none
  | _ => none

theorem asking_of_noHeight
    {arrival : Instant} {fault : Fault}
    (isNone : noHeight? member = some (arrival, fault)) :
    ∃ since answer, member.feed.stage = .asking since answer ∧
      since + answer.delay = arrival ∧
      answer.content.outcome.bind Height.parse = .error fault := by
  unfold noHeight? at isNone
  split at isNone
  · next since answer asking =>
      split at isNone
      · next reported failed =>
          obtain ⟨isArrival, rfl⟩ := Prod.mk.inj (Option.some.inj isNone)
          exact ⟨since, answer, asking, isArrival, failed⟩
      · cases isNone
  · cases isNone

/-- With an interval of three seconds, the height is recalled for the second query and
asked for again behind a pause of five seconds. That it is no number then makes the feed
fail, and the first height stays in the cache. -/
theorem heights_are_fetched_when_stale_behind_a_pause :
    let line := Bytes.ofString "\x7b\"header\":\x7b\"number\":1\x7d\x7d"
    let portal := Portal.scripted [⟨0, .ok "100"⟩, ⟨0, .ok "high"⟩]
      [⟨0, .ok ⟨200, some [⟨0, .data line⟩]⟩⟩]
    let client : Client := ⟨"", "", { tipRefresh := Duration.ofSeconds 3 }⟩
    let pause := Duration.ofSeconds 5
    let actions := .opened client portal (.ofSelection (.empty .evm)) {} ::
      List.replicate 9 (.proceed 0) ++ [.pass pause, .proceed 0, .proceed 0]
    let fleet := (create .empty).run actions
    (create .empty).chronicle 0 actions =
        [⟨0, .asked⟩, ⟨0, .learned ⟨100, ""⟩⟩, ⟨0, .posted ⟨100, ""⟩⟩, ⟨0, .turned⟩,
          ⟨0, .recalled ⟨100, ""⟩⟩, ⟨0, .posted ⟨100, ""⟩⟩, ⟨pause, .turned⟩,
          ⟨pause, .asked⟩] ∧
      ∃ member later, fleet.members[0]? = some member ∧
        member.feed.inquiries =
          [(0, .height), (0, .query), (0, .query), (pause, .height)] ∧
        ((fleet.act (.proceed 0)).run [.poll 0, .poll 0]).members[0]? = some later ∧
        later.feed.cache.last.map (fun (fetched, height) => (fetched, ⟨height, ""⟩)) =
          some (0, (⟨100, ""⟩ : BlockRef)) ∧
        later.feed.yields = [.failed (.invalidHeight "high"), .ended] := by
  intro line portal client pause actions fleet
  have isChronicle : (create .empty).chronicle 0 actions =
      [⟨0, .asked⟩, ⟨0, .learned ⟨100, ""⟩⟩, ⟨0, .posted ⟨100, ""⟩⟩, ⟨0, .turned⟩,
        ⟨0, .recalled ⟨100, ""⟩⟩, ⟨0, .posted ⟨100, ""⟩⟩, ⟨pause, .turned⟩,
        ⟨pause, .asked⟩] := by
    decide +kernel
  have shape : fleet.members.map (fun member =>
      (noHeight? member, fleet.isCancelled member, member.feed.yields.length)) =
        [(some (fleet.now, .invalidHeight "high"), false, 0)] := by
    decide +kernel
  have told : ((fleet.act (.proceed 0)).run [.poll 0, .poll 0]).members.map (fun member =>
      (member.feed.yields.all (fun given => given.isFailure || given.isEnd),
        member.feed.consumer)) = [(true, .over)] := by
    decide +kernel
  obtain ⟨member, found, seen⟩ := exists_of_observed shape
  obtain ⟨isNone, going, nothingYet⟩ :
      noHeight? member = some (fleet.now, .invalidHeight "high") ∧
        fleet.isCancelled member = false ∧ member.feed.yields.length = 0 := by
    simpa only [Prod.mk.injEq] using seen
  have opened : (actions.filterMap Action.tipRefresh?)[0]? = some (Duration.ofSeconds 3) := by
    decide +kernel
  obtain ⟨inquiries, cache, _, _, ends⟩ :=
    heights_are_fetched_when_stale .empty actions 0 member (Duration.ofSeconds 3) found opened
  obtain ⟨since, answer, asking, arrival, failed⟩ := asking_of_noHeight isNone
  obtain ⟨_, _, _, _, follows⟩ :=
    ends since answer _ asking going (Nat.le_of_eq arrival) failed
  obtain ⟨later, isLater, sameCache, _, got, yields, outcome⟩ := follows [.poll 0, .poll 0]
  have seen := observe_eq told isLater
  obtain ⟨onlyEnds, isOver⟩ :
      later.feed.yields.all (fun given => given.isFailure || given.isEnd) = true ∧
        later.feed.consumer = .over := by
    simpa only [Prod.mk.injEq] using seen
  have noOverflow : .overflow ∉ later.feed.yields := fun overflow =>
    absurd (List.all_eq_true.mp onlyEnds _ overflow) nofun
  obtain ⟨_, whole⟩ := outcome.resolve_left fun overran => noOverflow overran.1
  rw [isChronicle] at inquiries cache
  refine ⟨isChronicle, member, later, found, inquiries.symm, isLater, ?_, ?_⟩
  · rw [sameCache, ← cache]
    rfl
  · rw [yields, List.length_eq_zero_iff.mp nothingYet,
      whole (by rw [isOver]; nofun) (List.Sublist.refl _)]
    rfl

/-- A height whose request was called off, as the portal says, closes the feed: the
consumer is told that the feed has ended and not that it has failed. -/
theorem cancelled_fetch_closes_feed :
    let portal := Portal.scripted [⟨0, .failed .cancelled⟩] []
    let fleet := (create .empty).run
      [.opened ⟨"", "", {}⟩ portal (.ofSelection (.empty .evm)) {}, .proceed 0]
    let ended := (fleet.act (.proceed 0)).run [.poll 0, .poll 0]
    fleet.members.map (fun member => (noHeight? member, fleet.isCancelled member)) =
        [(some (fleet.now, .cancelled), false)] ∧
      ended.members.map (fun member =>
        (member.feed.buffer.phase, member.feed.hasEnded, member.feed.hasFailed)) =
        [(.closed, true, false)] := by
  decide +kernel

end Fleet
end BlockFeed
