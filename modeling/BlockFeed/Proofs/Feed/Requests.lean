import BlockFeed.Proofs.Chain
import BlockFeed.Proofs.Feed.Ending
import BlockFeed.Proofs.Feed.Replies
import BlockFeed.Proofs.Query

/-!
# The requests of a feed

The replies of a portal determine what a feed asks next: it posts its query from the
block behind the last one that the replies to its earlier queries hold. Every
request is made for a block that the query reaches. When the next block lies beyond,
the feed closes its buffer, and it makes no request any more.
-/

namespace BlockFeed

namespace Feed

/-- What a portal answers to queries that are posted in turn. -/
def Plan.answersTo (plan : Plan) (posts : List Query) : List (Answer Reply) :=
  posts.zipIdx.map fun (query, count) => (plan.portal.reply count query).content

/-- The first number behind the blocks that the replies to queries hold. -/
def Plan.cursorBehind (plan : Plan) (posts : List Query) : UInt64 :=
  (((plan.answersTo posts).flatMap Answer.blocks).getLast?.map Block.successor).getD
    plan.query.firstBlock

/-- The queries that are posted in a part of a log. -/
def postsIn (log : List Entry) : List Query :=
  log.filterMap (·.event.post?)

variable {feed next : Feed} {now : Instant} {cancelled : Bool}

theorem Underway.position_eq (underway : feed.Underway []) :
    feed.position = feed.plan.cursorBehind feed.posts := by
  have gathered : feed.gathered = feed.produced := by
    rw [← underway.whole, List.append_nil]
  rw [position, gathered]
  rfl

/-! ## Where requests are made -/

/-- The loop stands at a block that the query reaches, or it is at the beginning of
a round or has ended with it. -/
def Within (feed : Feed) : Prop :=
  match feed.stage with
  | .turning => True
  | .finished =>
      feed.plan.query.reaches feed.cursor = false -> feed.buffer.phase = .closed
  | _ => feed.plan.query.reaches feed.cursor = true

section within

theorem within_of_ended
    (finished : feed.stage = .finished)
    (reaches : feed.plan.query.reaches feed.cursor = true) :
    feed.Within := by
  simp [Within, finished, reaches]

theorem Within.reaches
    (within : feed.Within)
    (notTurning : feed.stage ≠ .turning)
    (notFinished : feed.stage ≠ .finished) :
    feed.plan.query.reaches feed.cursor = true := by
  unfold Within at within
  split at within
  · next turning => exact absurd turning notTurning
  · next finished => exact absurd finished notFinished
  · exact within

theorem within_atHead
    (feed : Feed) (now : Instant)
    (reaches : feed.plan.query.reaches feed.cursor = true) :
    (feed.atHead now).Within := by
  unfold atHead
  split
  · exact within_of_ended rfl reaches
  · exact reaches

theorem within_endReply
    (feed : Feed) (now : Instant) (origin cursor : UInt64)
    (reaches : feed.plan.query.reaches feed.cursor = true) :
    (feed.endReply now origin cursor).Within := by
  unfold endReply
  split
  · exact within_atHead _ now reaches
  · trivial

theorem within_continueReading
    (feed : Feed) (now : Instant) (reading : Reading)
    (reaches : feed.plan.query.reaches feed.cursor = true) :
    (feed.continueReading now reading).Within := by
  unfold continueReading
  split
  · exact feed.within_endReply now _ _ reaches
  · exact reaches

theorem Handing.within
    {reading : Reading} {lines : List Bytes}
    (handing : feed.Handing now reading lines next)
    (reaches : feed.plan.query.reaches feed.cursor = true) :
    next.Within := by
  cases handing with
  | spoiled fault =>
      split
      · exact within_of_ended rfl reaches
      · exact within_of_ended rfl reaches
  | blank => exact within_continueReading _ now _ reaches
  | added => exact within_continueReading _ now _ reaches
  | filled => exact reaches
  | discarded => exact within_continueReading _ now _ reaches

@[simp] theorem cursor_callOff (feed : Feed) (now : Instant) :
    (feed.callOff now).cursor = feed.cursor := by
  unfold callOff
  split <;> rfl

/-- Every step of the loop keeps its place within the query. -/
theorem Within.proceed
    (within : feed.Within)
    (conserves : feed.Conserves cancelled)
    (proceeding : feed.Proceeding now cancelled next) :
    next.Within := by
  have elsewhere := within.reaches
  cases proceeding with
  | overreached turning =>
      simp only [Conserves, turning] at conserves
      intro _
      rw [finish, Buffer.close_of_running conserves.1.running]
  | calledOff notFinished turning =>
      have reaches : feed.plan.query.reaches feed.cursor = true := by
        by_cases isTurning : feed.stage = .turning
        · exact turning isTurning
        · exact elsewhere isTurning notFinished
      refine within_of_ended (feed.stage_callOff now) ?_
      rw [(feed.working_callOff now).plan, cursor_callOff]
      exact reaches
  | recalled _ turning reaches => exact reaches
  | asked turning reaches => exact reaches
  | learned _ _ _ asking => exact elsewhere (by simp [asking]) (by simp [asking])
  | unlearned _ _ _ asking =>
      exact within_of_ended rfl (elsewhere (by simp [asking]) (by simp [asking]))
  | posted _ resolved => exact elsewhere (by simp [resolved]) (by simp [resolved])
  | opened _ _ _ _ _ posting => exact elsewhere (by simp [posting]) (by simp [posting])
  | bodiless _ _ _ _ posting =>
      exact within_endReply _ now _ _ (elsewhere (by simp [posting]) (by simp [posting]))
  | nothing _ _ _ reply posting =>
      have reaches := elsewhere (by simp [posting]) (by simp [posting])
      refine within_atHead _ now ?_
      rwa [(feed.working_decline now reply).plan, cursor_decline]
  | refused _ _ _ reply posting =>
      have reaches := elsewhere (by simp [posting]) (by simp [posting])
      refine within_of_ended rfl ?_
      change (feed.decline now reply).plan.query.reaches (feed.decline now reply).cursor = true
      rwa [(feed.working_decline now reply).plan, cursor_decline]
  | unanswered _ _ _ _ posting =>
      exact within_of_ended rfl (elsewhere (by simp [posting]) (by simp [posting]))
  | exhausted _ _ _ stage _ _ handing =>
      exact handing.within (elsewhere (by simp [stage]) (by simp [stage]))
  | received _ _ _ _ _ _ stage _ _ _ handing =>
      exact handing.within (elsewhere (by simp [stage]) (by simp [stage]))
  | broke _ _ _ _ _ stage =>
      exact within_of_ended rfl (elsewhere (by simp [stage]) (by simp [stage]))
  | crashed _ _ _ _ stage =>
      exact within_of_ended rfl (elsewhere (by simp [stage]) (by simp [stage]))
  | admitted _ _ held =>
      exact within_continueReading _ now _ (elsewhere (by simp [held]) (by simp [held]))
  | resumed => trivial

/-- The consumer leaves the place of the loop alone. -/
theorem Within.look
    (within : feed.Within)
    (looking : feed.Looking next)
    (closed : feed.buffer.phase = .closed -> next.buffer.phase = .closed) :
    next.Within := by
  unfold Within at within ⊢
  rw [looking.stage, looking.plan, looking.cursor]
  split at within
  · trivial
  · exact fun beyond => closed (within beyond)
  · exact within

end within

/-! ## What has been requested -/

/-- Each request was made for the block behind those that the replies to the earlier
queries hold, and the query reaches it. -/
def Bounded (feed : Feed) : Prop :=
  ∀ earlier entry later, feed.log = earlier ++ entry :: later ->
    entry.event.isRequest = true ->
    feed.plan.query.reaches (feed.plan.cursorBehind (postsIn earlier)) = true ∧
      ∀ query, entry.event.post? = some query ->
        query = feed.plan.query.startingAt (feed.plan.cursorBehind (postsIn earlier))

section bounded

/-- An entry of a longer log is one of the shorter one, or one of those behind it. -/
theorem split_append
    {log added earlier later : List Entry} {entry : Entry}
    (split : log ++ added = earlier ++ entry :: later) :
    (∃ rest, log = earlier ++ entry :: rest) ∨
      ∃ before, added = before ++ entry :: later ∧ earlier = log ++ before := by
  rcases List.append_eq_append_iff.mp split with
    ⟨before, isEarlier, isAdded⟩ | ⟨rest, isLog, isRest⟩
  · exact .inr ⟨before, isAdded, isEarlier⟩
  · cases rest with
    | nil => exact .inr ⟨[], by simpa using isRest.symm, by simpa using isLog.symm⟩
    | cons first others =>
        obtain ⟨rfl, _⟩ := List.cons.inj isRest
        exact .inl ⟨others, isLog⟩

/-- Whatever is recorded keeps the bounds if the new requests are within them. -/
theorem Bounded.append
    (bounded : feed.Bounded)
    (plan : next.plan = feed.plan)
    {added : List Entry}
    (log : next.log = feed.log ++ added)
    (within : ∀ before entry later, added = before ++ entry :: later ->
      entry.event.isRequest = true ->
      feed.plan.query.reaches (feed.plan.cursorBehind (postsIn (feed.log ++ before))) = true ∧
        ∀ query, entry.event.post? = some query ->
          query = feed.plan.query.startingAt
            (feed.plan.cursorBehind (postsIn (feed.log ++ before)))) :
    next.Bounded := by
  intro earlier entry later split isRequest
  rw [log] at split
  rw [plan]
  rcases split_append split with ⟨rest, isOld⟩ | ⟨before, isNew, rfl⟩
  · exact bounded earlier entry rest isOld isRequest
  · exact within before entry later isNew isRequest

/-- One more request keeps the bounds if it is made where the loop stands. -/
theorem Bounded.request
    (bounded : feed.Bounded)
    (plan : next.plan = feed.plan)
    {event : Event}
    (log : next.log = feed.log ++ [⟨now, event⟩])
    (inStep : feed.cursor = feed.plan.cursorBehind feed.posts)
    (reaches : feed.plan.query.reaches feed.cursor = true)
    (query : ∀ query, event.post? = some query -> query = feed.plan.query.startingAt feed.cursor) :
    next.Bounded := by
  refine bounded.append plan log ?_
  intro before entry later single _
  have atOnce : before = [] ∧ entry = ⟨now, event⟩ := by
    cases before with
    | nil => exact ⟨rfl, (List.cons.inj single).1.symm⟩
    | cons first others => simp at single
  obtain ⟨rfl, rfl⟩ := atOnce
  have here : feed.plan.cursorBehind (postsIn (feed.log ++ [])) = feed.cursor := by
    rw [List.append_nil, inStep]
    rfl
  rw [here]
  exact ⟨reaches, query⟩

/-- Every step of the loop keeps the bounds. -/
theorem Bounded.proceed
    (bounded : feed.Bounded)
    (within : feed.Within)
    (conserves : feed.Conserves cancelled)
    (proceeding : feed.Proceeding now cancelled next) :
    next.Bounded := by
  have plan := proceeding.feeding.plan
  rcases proceeding.notes_or_request with
    ⟨events, log, quiet⟩ | ⟨turning, reaches, rfl⟩ | ⟨tip, resolved, rfl⟩
  · refine bounded.append plan log ?_
    intro before entry later split isRequest
    have mem : entry ∈ events.map (Entry.mk now) := by
      rw [split]
      exact List.mem_append_right _ (List.mem_cons_self ..)
    obtain ⟨event, isEvent, rfl⟩ := List.mem_map.mp mem
    exact absurd ((quiet event isEvent).1.symm.trans isRequest) Bool.false_ne_true
  · simp only [Conserves, turning] at conserves
    refine bounded.request plan rfl (conserves.2.trans conserves.1.position_eq) reaches ?_
    intro query isQuery
    cases isQuery
  · simp only [Conserves, resolved] at conserves
    have reaches := within.reaches (by simp [resolved]) (by simp [resolved])
    refine bounded.request plan rfl (conserves.2.trans conserves.1.position_eq) reaches ?_
    intro query isQuery
    exact (Option.some.inj isQuery).symm

/-- What the consumer gets is no request. -/
theorem Bounded.poll
    {result : Option Yield}
    (bounded : feed.Bounded)
    (polling : feed.Polling now result next) :
    next.Bounded := by
  refine bounded.append polling.looking.plan polling.log ?_
  intro before entry later split isRequest
  have mem : entry ∈ result.toList.map fun given => ⟨now, .yielded given⟩ := by
    rw [split]
    exact List.mem_append_right _ (List.mem_cons_self ..)
  obtain ⟨given, _, rfl⟩ := List.mem_map.mp mem
  cases isRequest

end bounded

/-- What is asked of a portal follows from its replies at all times. -/
theorem requests_invariant :
    Fleet.Invariant fun feed _ cancelled =>
      feed.Conserves cancelled ∧ feed.Heard ∧ feed.Within ∧ feed.Bounded where
  opened client portal query options now :=
    ⟨conserves_invariant.opened client portal query options now, ⟨nofun, nofun⟩, trivial,
      fun earlier _ _ split => absurd split (by cases earlier <;> nofun)⟩
  proceeds := by
    rintro feed now cancelled next ⟨conserves, heard, within, bounded⟩ proceeding
    exact ⟨conserves.proceed proceeding, heard.proceed conserves proceeding,
      within.proceed conserves proceeding, bounded.proceed within conserves proceeding⟩
  polls := by
    rintro feed now cancelled result next ⟨conserves, heard, within, bounded⟩ polling
    have looking := polling.looking
    refine ⟨conserves.look looking polling.moves, heard.look looking, within.look looking ?_,
      bounded.poll polling⟩
    intro closed
    rcases polling.moves with ⟨phase, _⟩ | ⟨⟨report, failed⟩, _⟩
    · exact phase.trans closed
    · exact absurd (closed.symm.trans failed) nofun
  leaves := by
    rintro feed now cancelled ⟨conserves, heard, within, bounded⟩
    exact ⟨conserves.look looking_leave (.inl ⟨rfl, rfl⟩), heard.look looking_leave,
      within.look looking_leave id, bounded⟩
  calledOff := by
    rintro feed now ⟨conserves, kept⟩
    exact ⟨conserves.calledOff, kept⟩
  later _ kept := kept

/-! ## Beyond the query -/

/-- The next block lies beyond the query: nothing is asked any more. -/
structure Exceeded (feed : Feed) (entries : List Entry) : Prop where
  beyond : feed.plan.query.reaches feed.cursor = false
  dealings : feed.dealings = entries
  place : feed.stage = .turning ∨ feed.stage = .finished
  running : feed.stage = .turning -> feed.buffer.phase = .running
  closed : feed.stage = .finished -> feed.buffer.phase = .closed

/-- Beyond the query, a step of the loop ends it and closes the buffer. -/
theorem Exceeded.proceed
    {entries : List Entry}
    (exceeded : feed.Exceeded entries)
    (proceeding : feed.Proceeding now cancelled next) :
    next.Exceeded entries ∧ next.stage = .finished := by
  have turning : feed.stage = .turning :=
    exceeded.place.resolve_right proceeding.unfinished
  have beyond := exceeded.beyond
  cases proceeding with
  | overreached =>
      refine ⟨⟨beyond, exceeded.dealings, .inr rfl, nofun, fun _ => ?_⟩, rfl⟩
      rw [finish, Buffer.close_of_running (exceeded.running turning)]
  | calledOff _ reaches => simp [reaches turning] at beyond
  | recalled _ _ reaches => simp [reaches] at beyond
  | asked _ reaches => simp [reaches] at beyond
  | _ => simp_all

/-- Beyond the query, the loop can end at once unless it has. -/
theorem Exceeded.ends
    {entries : List Entry}
    (exceeded : feed.Exceeded entries)
    (unfinished : feed.stage ≠ .finished) :
    ∃ next, feed.proceed? now cancelled = some next ∧ next.stage = .finished := by
  have turning := exceeded.place.resolve_right unfinished
  refine ⟨feed.turn now cancelled, by simp [proceed?, turning], ?_⟩
  exact (exceeded.proceed (proceeding_turn turning)).2

/-- Beyond the query, the consumer changes nothing. -/
theorem Exceeded.poll
    {entries : List Entry} {result : Option Yield}
    (exceeded : feed.Exceeded entries)
    (polling : feed.Polling now result next) :
    next.Exceeded entries := by
  have looking := polling.looking
  have phase : ∀ kept, feed.buffer.phase = kept -> (∀ report, kept ≠ .failed report) ->
      next.buffer.phase = kept := by
    intro kept isKept notFailed
    rcases polling.moves with ⟨same, _⟩ | ⟨⟨report, failed⟩, _⟩
    · exact same.trans isKept
    · exact absurd (isKept.symm.trans failed) (notFailed report)
  refine ⟨?_, polling.dealings.trans exceeded.dealings, ?_, ?_, ?_⟩
  · rw [looking.plan, looking.cursor]
    exact exceeded.beyond
  · rw [looking.stage]
    exact exceeded.place
  · rw [looking.stage]
    exact fun turning => phase _ (exceeded.running turning) nofun
  · rw [looking.stage]
    exact fun finished => phase _ (exceeded.closed finished) nofun

theorem Exceeded.leave
    {entries : List Entry}
    (exceeded : feed.Exceeded entries) :
    feed.leave.Exceeded entries :=
  ⟨exceeded.beyond, exceeded.dealings, exceeded.place, exceeded.running, exceeded.closed⟩

/-- Beyond the query, nothing is asked whatever happens. -/
theorem exceeded_lasting (entries : List Entry) :
    Fleet.Lasting fun feed _ _ => feed.Exceeded entries where
  proceeds exceeded proceeding := (exceeded.proceed proceeding).1
  polls exceeded polling := exceeded.poll polling
  leaves exceeded := exceeded.leave
  calledOff exceeded := exceeded
  later _ exceeded := exceeded

/-- A feed whose query is empty asks for nothing. -/
theorem empty_invariant :
    Fleet.Invariant fun feed _ _ =>
      feed.plan.query.reaches feed.plan.query.firstBlock = false -> feed.Exceeded [] where
  opened client portal query options now empty :=
    ⟨empty, rfl, .inl rfl, fun _ => rfl, nofun⟩
  proceeds := by
    intro feed now cancelled next exceeded proceeding empty
    rw [proceeding.feeding.plan] at empty
    exact ((exceeded empty).proceed proceeding).1
  polls := by
    intro feed now cancelled result next exceeded polling empty
    rw [polling.looking.plan] at empty
    exact (exceeded empty).poll polling
  leaves exceeded empty := (exceeded empty).leave
  calledOff exceeded := exceeded
  later _ exceeded := exceeded

/-! ## What follows -/

theorem Plan.answersTo_append_cons
    (plan : Plan) (earlier later : List Query) (query : Query) :
    plan.answersTo (earlier ++ query :: later) =
      plan.answersTo earlier ++ (plan.portal.reply earlier.length query).content ::
        (later.zipIdx (earlier.length + 1)).map fun (query, count) =>
          (plan.portal.reply count query).content := by
  simp only [answersTo, List.zipIdx_append, List.zipIdx_cons, List.map_append, List.map_cons,
    Nat.zero_add]

/-- Behind one more reply, the cursor is behind its last block, if it holds any. -/
theorem Plan.cursorBehind_concat (plan : Plan) (earlier : List Query) (query : Query) :
    plan.cursorBehind (earlier ++ [query]) =
      ((plan.portal.reply earlier.length query).content.blocks.getLast?.map
        Block.successor).getD (plan.cursorBehind earlier) := by
  rw [cursorBehind, plan.answersTo_append_cons, List.flatMap_append, List.getLast?_append]
  cases isLast : (plan.portal.reply earlier.length query).content.blocks.getLast? with
  | none => simp [isLast, cursorBehind]
  | some last => simp [isLast]

/-- Each query is posted for a block that it reaches, behind those of the earlier replies. -/
theorem Bounded.reaches_and_post
    (bounded : feed.Bounded)
    {earlier later : List Query} {query : Query}
    (split : feed.posts = earlier ++ query :: later) :
    feed.plan.query.reaches (feed.plan.cursorBehind earlier) = true ∧
      query = feed.plan.query.startingAt (feed.plan.cursorBehind earlier) := by
  obtain ⟨before, behind, log, isEarlier, isLater⟩ := List.filterMap_eq_append_iff.mp split
  obtain ⟨quiet, entry, rest, isBehind, noPosts, isPost, _⟩ := List.filterMap_eq_cons_iff.mp isLater
  have here : postsIn (before ++ quiet) = earlier := by
    have nothing : postsIn quiet = [] := List.filterMap_eq_nil_iff.mpr noPosts
    rw [postsIn, List.filterMap_append, isEarlier]
    exact (congrArg (earlier ++ ·) nothing).trans (List.append_nil _)
  have isRequest : entry.event.isRequest = true := by
    cases event : entry.event with
    | posted aborted posted => rfl
    | _ => simp [event, Event.post?] at isPost
  obtain ⟨reaches, made⟩ := bounded (before ++ quiet) entry rest (by simp [log, isBehind])
    isRequest
  rw [here] at reaches made
  exact ⟨reaches, made query isPost⟩

/-- Each query that is posted begins behind the blocks of the earlier replies. -/
theorem Bounded.post
    (bounded : feed.Bounded)
    {earlier later : List Query} {query : Query}
    (split : feed.posts = earlier ++ query :: later) :
    query = feed.plan.query.startingAt (feed.plan.cursorBehind earlier) :=
  (bounded.reaches_and_post split).2

/-- A reply behind which another query is posted has been read to its end. -/
theorem Heard.of_followed
    (heard : feed.Heard)
    {earlier later : List Query} {previous next : Query}
    (split : feed.posts = earlier ++ previous :: next :: later) :
    ∃ blocks,
      (feed.plan.portal.reply earlier.length previous).content.blocks? = some blocks := by
  have isAnswers : feed.answers = feed.plan.answersTo feed.posts := rfl
  refine Option.isSome_iff_exists.mp (heard.earlier _ ?_)
  rw [isAnswers, split, Plan.answersTo_append_cons,
    List.dropLast_append_of_ne_nil (List.cons_ne_nil _ _),
    List.dropLast_cons_of_ne_nil (by simp)]
  exact List.mem_append_right _ (List.mem_cons_self ..)

/-- Where the loop stands, the next block lies beyond the query only at the beginning of
a round or when the loop has ended with it. -/
theorem exceeded_of_beyond
    (conserves : feed.Conserves cancelled)
    (within : feed.Within)
    (beyond : feed.plan.query.reaches feed.cursor = false) :
    feed.Exceeded feed.dealings := by
  have place : feed.stage = .turning ∨ feed.stage = .finished := by
    by_contra elsewhere
    obtain ⟨notTurning, notFinished⟩ := not_or.mp elsewhere
    have reaches := within.reaches notTurning notFinished
    exact Bool.false_ne_true (beyond.symm.trans reaches)
  refine ⟨beyond, rfl, place, ?_, ?_⟩
  · intro turning
    simp only [Conserves, turning] at conserves
    exact conserves.1.running
  · intro finished
    simp only [Within, finished] at within
    exact within beyond

end Feed

namespace Fleet

variable {fleet : Fleet} {index : Nat} {member : Member}

/-- Beyond the query, the portal hears nothing more from a feed, and the buffer is
closed as soon as the loop takes a step. -/
theorem silent_of_exceeded
    {entries : List Feed.Entry}
    (found : fleet.members[index]? = some member)
    (exceeded : member.feed.Exceeded entries)
    (more : List Action) :
    ∃ later, (fleet.run more).members[index]? = some later ∧ later.feed.dealings = entries ∧
      (.proceed index ∈ more -> later.feed.buffer.phase = .closed) := by
  by_cases stepped : .proceed index ∈ more
  · obtain ⟨later, isLater, exceededLater, finished⟩ :=
      finished_of_stepped (Feed.exceeded_lasting entries) Feed.Exceeded.ends found exceeded stepped
    exact ⟨later, isLater, exceededLater.dealings, fun _ => exceededLater.closed finished⟩
  · obtain ⟨later, isLater, _, exceededLater⟩ :=
      (Feed.exceeded_lasting entries).run found exceeded more
    exact ⟨later, isLater, exceededLater.dealings, fun isStepped => absurd isStepped stepped⟩

/-- The queries that a feed posts are determined by the replies. The first one begins
where the query does. Another one is posted only after the reply to the one before has
been read to its end, and it begins with the number behind its last block, or where
the one before did if it holds no block. All are posted in the form of the query, with
only the member for the first block replaced.

No request is made for a block that the query does not reach, and none at all if the
query is empty. Once the next block lies beyond the query, the portal hears nothing
more, and the next step of the loop closes the buffer. -/
theorem requests_follow_replies (tokens : Tokens) (actions : List Action) :
    let fleet := (create tokens).run actions
    ∀ (index : Nat) (member : Member), fleet.members[index]? = some member ->
      let feed := member.feed
      let query := feed.plan.query
      (∀ first later, feed.posts = first :: later ->
        first = query.startingAt query.firstBlock) ∧
      (∀ earlier previous next later, feed.posts = earlier ++ previous :: next :: later ->
        ∃ blocks,
          (feed.plan.portal.reply earlier.length previous).content.blocks? = some blocks ∧
          next = query.startingAt next.firstBlock ∧
          next.firstBlock.toNat =
            (blocks.getLast?.map fun last =>
              min (last.number.toNat + 1) (UInt64.size - 1)).getD
                previous.firstBlock.toNat) ∧
      (∀ posted ∈ feed.posts, ∀ members, query.wire = .object members ->
        posted.wire =
          .object (Json.Members.insert "fromBlock" (.number (.natural posted.firstBlock))
            members)) ∧
      (∀ earlier entry later, feed.log = earlier ++ entry :: later ->
        entry.event.isRequest = true ->
        query.reaches (feed.plan.cursorBehind (Feed.postsIn earlier)) = true ∧
          ∀ posted, entry.event.post? = some posted ->
            posted.firstBlock = feed.plan.cursorBehind (Feed.postsIn earlier)) ∧
      (query.reaches query.firstBlock = false -> feed.dealings = []) ∧
      (query.reaches feed.cursor = false -> ∀ more,
        ∃ later, (fleet.run more).members[index]? = some later ∧
          later.feed.dealings = feed.dealings ∧
          (.proceed index ∈ more -> later.feed.buffer.phase = .closed)) := by
  intro fleet index member found feed query
  have mem : member ∈ fleet.members := List.mem_of_getElem? found
  obtain ⟨conserves, heard, within, bounded⟩ :=
    Feed.requests_invariant.run tokens actions member mem
  refine ⟨?_, ?_, ?_, ?_, ?_, ?_⟩
  · intro first later split
    have behindNone : feed.posts = [] ++ first :: later := split
    exact bounded.post behindNone
  · intro earlier previous next later split
    obtain ⟨blocks, isRead⟩ := heard.of_followed split
    have isPrevious := bounded.post split
    have isNext := bounded.post (split.trans (List.append_cons ..))
    rw [Feed.Plan.cursorBehind_concat, Answer.blocks_of_blocks? isRead] at isNext
    refine ⟨blocks, isRead, ?_, ?_⟩
    · rw [isNext]
      rfl
    · rw [isNext, isPrevious, Query.firstBlock_startingAt, Query.firstBlock_startingAt]
      cases isLast : blocks.getLast? with
      | none => rfl
      | some last => exact last.toNat_successor
  · intro posted isPosted members wire
    obtain ⟨earlier, later, split⟩ := List.append_of_mem isPosted
    rw [bounded.post split]
    exact Query.wire_startingAt wire _
  · intro earlier entry later split isRequest
    obtain ⟨reaches, made⟩ := bounded earlier entry later split isRequest
    refine ⟨reaches, ?_⟩
    intro posted isPosted
    rw [made posted isPosted]
    rfl
  · intro empty
    exact (Feed.empty_invariant.run tokens actions member mem empty).dealings
  · intro beyond more
    exact silent_of_exceeded found (Feed.exceeded_of_beyond conserves within beyond) more

/-- A feed posts its query again behind the block that the first reply holds. -/
theorem requests_follow_replies_in_short_run :
    let block := Bytes.ofString "\x7b\"header\":\x7b\"number\":7\x7d\x7d"
    let portal := Portal.scripted [] [⟨0, .ok ⟨200, some [⟨0, .data block⟩]⟩⟩]
    let query := (Query.ofSelection (.empty .evm)).startingAt 3
    let fleet := (create .empty).run
      (.opened ⟨"", "", {}⟩ portal query {} :: List.replicate 12 (.proceed 0))
    ∃ member first second blocks, fleet.members[0]? = some member ∧
      member.feed.posts = [first, second] ∧
      (portal.reply 0 first).content.blocks? = some blocks ∧
      second.firstBlock.toNat =
        (blocks.getLast?.map fun last => min (last.number.toNat + 1) (UInt64.size - 1)).getD
          first.firstBlock.toNat := by
  intro block portal query fleet
  have shape : fleet.members.map (fun member => member.feed.posts.length) = [2] := by
    decide +kernel
  have portals : fleet.plans = [Client.plan ⟨"", "", {}⟩ portal query {}] :=
    plans_run .empty _
  obtain ⟨member, members⟩ : ∃ member, fleet.members = [member] :=
    List.length_eq_one_iff.mp (by simpa using congrArg List.length shape)
  have found : fleet.members[0]? = some member := by rw [members]; rfl
  have two : member.feed.posts.length = 2 := by simpa [members] using shape
  have plan : member.feed.plan = Client.plan ⟨"", "", {}⟩ portal query {} := by
    simpa [plans, members] using portals
  obtain ⟨first, second, posts⟩ := List.length_eq_two.mp two
  obtain ⟨_, follow, _⟩ := requests_follow_replies .empty _ 0 member found
  have alone : member.feed.posts = [] ++ first :: second :: [] := posts
  obtain ⟨blocks, isRead, _, number⟩ := follow [] first second [] alone
  rw [plan] at isRead
  exact ⟨member, first, second, blocks, found, posts, isRead, number⟩

end Fleet
end BlockFeed
