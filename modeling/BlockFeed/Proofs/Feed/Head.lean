import BlockFeed.Proofs.Feed.Spacing
import BlockFeed.Proofs.Line.Framing
import BlockFeed.Proofs.Ndjson.Draining

/-!
# The finalized head

Whether a feed is at the finalized head shows only when a reply has been read to its end: then
the loop stands behind the last block of the reply, or where it stood if there is none. If every
block has a number from the first that was asked for on, but not the greatest there is, these are
different places. So the loop ends or pauses exactly behind a reply without blocks, and
otherwise it is on its way to the next query at once.
-/

namespace BlockFeed

/-! ## Replies without blocks -/

/-- Lines can be read and hold no block if all of them are blank. -/
theorem Ndjson.blocks_eq_ok_nil_iff (lines : List Bytes) :
    blocks lines = .ok [] ↔ ∀ line ∈ lines, Line.isBlank line = true := by
  have nothing : blocks lines = .ok [] ↔ carrying lines = [] := by
    rw [blocks]
    cases carrying lines with
    | nil => exact ⟨fun _ => rfl, fun _ => rfl⟩
    | cons line rest =>
        rw [mapM_block_cons]
        split <;> simp
  rw [nothing, carrying, List.filter_eq_nil_iff]
  simp

/-- A reply can be read to its end and holds no block if its status says so, or if it has no
body or one of which all lines are blank. -/
theorem Answer.blocks?_eq_some_nil_iff (reply : Reply) :
    (Answer.ok reply).blocks? = some [] ↔
      (reply.status == 200) = false ∧ (reply.status == 204) = true ∨
        (reply.status == 200) = true ∧ ∀ parts ∈ reply.body, Reply.isWhole parts = true ∧
          ∀ line ∈ Line.pieces (Reply.octets parts), Line.isBlank line = true := by
  have blank : ∀ parts, Ndjson.ofBody (Reply.octets parts) = .ok [] ↔
      ∀ line ∈ Line.pieces (Reply.octets parts), Line.isBlank line = true :=
    fun parts => Ndjson.blocks_eq_ok_nil_iff _
  cases status : reply.status == 200 with
  | false => simp [blocks?, status]
  | true =>
      cases body : reply.body with
      | none => simp [blocks?, status, body]
      | some parts =>
          cases read : Ndjson.ofBody (Reply.octets parts) with
          | error fault =>
              have notBlank := (blank parts).not.mp (by simp [read])
              simp [blocks?, status, body, read, Except.toOption, -not_forall, notBlank]
          | ok values =>
              have isBlank := blank parts
              rw [read, Except.ok.injEq] at isBlank
              simp [blocks?, status, body, read, Except.toOption, isBlank]

namespace Ndjson

/-- Behind blocks from the first number on, of which none has the greatest one, the cursor has
moved. -/
theorem lt_behind
    {origin : UInt64} {blocks : List Block}
    (someBlocks : blocks ≠ [])
    (inRange : ∀ block ∈ blocks, origin ≤ block.number ∧ block.number.toNat < UInt64.size - 1) :
    origin < behind origin blocks := by
  obtain ⟨last, isLast⟩ := Option.ne_none_iff_exists'.mp
    (fun none => someBlocks (List.getLast?_eq_none_iff.mp none))
  obtain ⟨notBelow, notGreatest⟩ := inRange last (List.mem_of_getLast? isLast)
  have number := last.toNat_successor
  rw [UInt64.le_iff_toNat_le] at notBelow
  simp only [behind, isLast, Option.map_some, Option.getD_some, UInt64.lt_iff_toNat_lt]
  omega

end Ndjson

namespace Feed

open Ndjson (behind)

variable {feed next : Feed} {now : Instant} {cancelled : Bool} {origin : UInt64}
  {blocks : List Block}

/-! ## Bodies that can be read to their end -/

namespace Reading

variable {reading : Reading}

/-- A body can be read to its end, and it holds certain blocks, of which some have been read. -/
structure Bears (reading : Reading) (origin : UInt64) (blocks : List Block) : Prop where
  begins : reading.origin = origin
  clean : reading.splitter.IsClean
  canEnd : reading.CanEnd
  read : ∃ done, done ++ reading.ahead = blocks ∧ reading.cursor = behind origin done

/-- At the end of a body that can be read, the line that it left unfinished can be. -/
theorem CanEnd.sound_of_end
    (canEnd : reading.CanEnd)
    (clean : reading.splitter.IsClean)
    (notExhausted : reading.exhausted = false)
    (atEnd : reading.rest = []) :
    Ndjson.Sound reading.splitter.finish.1.toList := by
  rcases canEnd with exhausted | ⟨_, sound⟩
  · exact absurd (notExhausted.symm.trans exhausted) nofun
  · rw [atEnd, Reply.octets_nil, List.append_nil, Line.completed_fragment clean] at sound
    rw [Line.Splitter.toList_finish]
    split
    · exact nofun
    · exact sound

/-- The next part of a body that can be read completes lines that can be, and so can what is
left behind it. -/
theorem CanEnd.sound_of_data
    (canEnd : reading.CanEnd)
    (clean : reading.splitter.IsClean)
    (notExhausted : reading.exhausted = false)
    {delay : Duration} {chunk : Bytes} {rest : List (Timed Item)}
    (parts : reading.rest = ⟨delay, .data chunk⟩ :: rest) :
    Ndjson.Sound (reading.splitter.push chunk).1 ∧
      CanEnd
        { reading with
          splitter := (reading.splitter.push chunk).2
          index := reading.index + 1
          rest := rest } := by
  rcases canEnd with exhausted | ⟨isWhole, sound⟩
  · exact absurd (notExhausted.symm.trans exhausted) nofun
  · rw [parts, Reply.octets_data, Line.completed_push clean] at sound
    rw [parts, Reply.isWhole_data] at isWhole
    exact ⟨fun line mem => sound line (List.mem_append_left _ mem),
      .inr ⟨isWhole, fun line mem => sound line (List.mem_append_right _ mem)⟩⟩

/-- A body cannot be read to its end if its next part is not data. -/
theorem not_canEnd
    {delay : Duration} {item : Item} {rest : List (Timed Item)}
    (notExhausted : reading.exhausted = false)
    (parts : reading.rest = ⟨delay, item⟩ :: rest)
    (noData : ∀ chunk, item ≠ .data chunk) :
    ¬reading.CanEnd := by
  rintro (exhausted | ⟨isWhole, _⟩)
  · exact absurd (notExhausted.symm.trans exhausted) nofun
  · rw [parts] at isWhole
    cases item with
    | data chunk => exact noData chunk rfl
    | _ => cases isWhole

end Reading

/-! ## Replies that are heard -/

/-- The loop hears a reply that holds certain blocks: it waits for the reply, or it is reading
the body. -/
structure Hears (feed : Feed) (origin : UInt64) (blocks : List Block) : Prop where
  cursor : feed.cursor = origin
  place :
    match feed.stage with
    | .posting _ _ answer => answer.content.blocks? = some blocks
    | .reading _ reading => reading.exhausted = false ∧ reading.Bears origin blocks
    | .held _ reading => reading.Bears origin blocks
    | _ => False

/-- The loop has read a reply that holds certain blocks to its end. It stands behind them, and
if that is where it stood before, it has come to the finalized head. -/
structure HasHeard (feed : Feed) (origin : UInt64) (blocks : List Block) (now : Instant) :
    Prop where
  cursor : feed.cursor = behind origin blocks
  atHead : behind origin blocks = origin ->
    if feed.plan.stopAtHead then feed.stage = .finished ∧ feed.buffer.phase = .closed
    else feed.stage = .pausing (now + feed.plan.headPoll)
  onward : behind origin blocks ≠ origin -> feed.stage = .turning

/-- If no number is out of range, the loop is at the head exactly behind a reply without
blocks. -/
theorem HasHeard.atHead_or_onward
    (hasHeard : feed.HasHeard origin blocks now)
    (inRange : ∀ block ∈ blocks, origin ≤ block.number ∧ block.number.toNat < UInt64.size - 1) :
    (blocks = [] ∧ feed.cursor = origin ∧
        (if feed.plan.stopAtHead then feed.stage = .finished ∧ feed.buffer.phase = .closed
          else feed.stage = .pausing (now + feed.plan.headPoll))) ∨
      (blocks ≠ [] ∧ origin < feed.cursor ∧ feed.stage = .turning) := by
  obtain ⟨cursor, atHead, onward⟩ := hasHeard
  by_cases empty : blocks = []
  · subst empty
    exact .inl ⟨rfl, cursor, atHead rfl⟩
  · have moved := Ndjson.lt_behind empty inRange
    have elsewhere : behind origin blocks ≠ origin := fun same =>
      UInt64.lt_irrefl _ (same ▸ moved)
    exact .inr ⟨empty, cursor ▸ moved, onward elsewhere⟩

section hears

theorem hasHeard_atHead
    (running : feed.buffer.phase = .running)
    (cursor : feed.cursor = origin)
    (nowhere : behind origin blocks = origin) :
    (feed.atHead now).HasHeard origin blocks now := by
  cases stops : feed.plan.stopAtHead with
  | true =>
      rw [Feed.atHead, if_pos stops]
      refine ⟨cursor.trans nowhere.symm, fun _ => ?_, absurd nowhere⟩
      have stopsThen : feed.finish.plan.stopAtHead = true := stops
      rw [if_pos stopsThen]
      exact ⟨rfl, by rw [finish, Buffer.close_of_running running]⟩
  | false =>
      rw [Feed.atHead, stops, if_neg Bool.false_ne_true]
      refine ⟨cursor.trans nowhere.symm, fun _ => ?_, absurd nowhere⟩
      rw [if_neg (by simp [stops])]

theorem hasHeard_endReply
    (running : feed.buffer.phase = .running)
    (cursor : feed.cursor = origin) :
    (feed.endReply now origin (behind origin blocks)).HasHeard origin blocks now := by
  have hinted : feed.buffer.hint.phase = .running := running
  unfold endReply
  split
  · next same => exact hasHeard_atHead hinted cursor (beq_iff_eq.mp same)
  · next moved => exact ⟨rfl, fun same => absurd (beq_iff_eq.mpr same) moved, fun _ => rfl⟩

/-- Going on with a body leads back into it, or behind it. -/
theorem Reading.Bears.continueReading
    {reading : Reading}
    (bears : reading.Bears origin blocks)
    (feed : Feed)
    (running : feed.buffer.phase = .running)
    (cursor : feed.cursor = origin)
    (now : Instant) :
    (feed.continueReading now reading).Hears origin blocks ∨
      (feed.continueReading now reading).HasHeard origin blocks now := by
  cases exhausted : reading.exhausted with
  | true =>
      obtain ⟨done, split, isCursor⟩ := bears.read
      rw [Reading.ahead, if_pos exhausted, List.append_nil] at split
      rw [Feed.continueReading, if_pos exhausted, isCursor, bears.begins, split]
      exact .inr (hasHeard_endReply running cursor)
  | false =>
      rw [Feed.continueReading, exhausted, if_neg Bool.false_ne_true]
      exact .inl ⟨cursor, exhausted, bears⟩

/-- A group of lines is handed on as part of a body that can be read. -/
theorem Handing.hears
    {reading : Reading} {lines : List Bytes}
    (handing : feed.Handing now reading lines next)
    (running : feed.buffer.phase = .running)
    (cursor : feed.cursor = origin)
    (sound : Ndjson.Sound lines)
    (isOrigin : reading.origin = origin)
    (clean : reading.splitter.IsClean)
    (canEnd : reading.CanEnd)
    (read : ∃ done, done ++ (Ndjson.readable lines ++ reading.ahead) = blocks ∧
      reading.cursor = behind origin done) :
    next.Hears origin blocks ∨ next.HasHeard origin blocks now := by
  obtain ⟨done, split, isCursor⟩ := read
  have bears : ∀ {part : Ndjson.Portion}, Ndjson.portion lines = .ok part ->
      Reading.Bears { reading with cursor := part.cursorBehind reading.cursor } origin blocks := by
    intro part isRead
    refine ⟨isOrigin, clean, canEnd, done ++ part.blocks, ?_, ?_⟩
    · rw [← split, ← Ndjson.blocks_of_portion isRead, List.append_assoc]
      rfl
    · rw [Ndjson.behind_append, ← isCursor]
      rfl
  cases handing with
  | spoiled fault spoiled =>
      rw [Ndjson.portion, sound.blocks_eq_ok] at spoiled
      cases spoiled
  | blank part isRead empty =>
      have same := bears isRead
      rw [cursorBehind_of_empty empty] at same
      exact same.continueReading feed running cursor now
  | added part isRead =>
      exact (bears isRead).continueReading
        { feed with buffer := feed.buffer.grown now part.blocks part.bytes } running cursor now
  | filled part isRead => exact .inl ⟨cursor, bears isRead⟩
  | discarded _ _ _ ended => exact absurd running ended

/-- A reply that can be read to its end begins with all of its blocks ahead. -/
theorem Reading.bears_opened
    {reply : Reply} {parts : List (Timed Item)}
    (status : (reply.status == 200) = true)
    (body : reply.body = some parts)
    (isRead : (Answer.ok reply).blocks? = some blocks)
    (origin : UInt64) :
    Bears ⟨origin, origin, .empty, 0, parts, false⟩ origin blocks := by
  have ahead := (Answer.blocks_of_body status body).symm.trans (Answer.blocks_of_blocks? isRead)
  simp only [Answer.blocks?, status, body, if_true] at isRead
  split at isRead
  · next isWhole =>
      refine ⟨rfl, Line.Splitter.isClean_empty, .inr ⟨isWhole, ?_⟩, [], ahead, rfl⟩
      cases read : Ndjson.ofBody (Reply.octets parts) with
      | error fault => simp [read, Except.toOption] at isRead
      | ok values => exact .of_blocks read
  · cases isRead

/-- Every step of the loop hears the reply on, or reads it to its end, unless it ends because
the feed was called off. -/
theorem Hears.proceed
    (hears : feed.Hears origin blocks)
    (running : feed.buffer.phase = .running)
    (proceeding : feed.Proceeding now cancelled next) :
    next.Hears origin blocks ∨ next.HasHeard origin blocks now ∨
      cancelled = true ∧ next.stage = .finished := by
  obtain ⟨cursor, place⟩ := hears
  have ahead : ∀ {outcome}, next.Hears origin blocks ∨ outcome ->
      next.Hears origin blocks ∨ outcome ∨ cancelled = true ∧ next.stage = .finished :=
    fun comes => comes.imp id .inl
  cases proceeding with
  | calledOff _ _ isCancelled => exact .inr (.inr ⟨isCancelled, feed.stage_callOff now⟩)
  | opened tip _ answer reply parts stage _ _ content status body =>
      simp only [stage, content] at place
      subst cursor
      exact .inl ⟨rfl, rfl, Reading.bears_opened status body place feed.cursor⟩
  | bodiless tip _ answer reply stage _ _ content status body =>
      simp only [stage, content, Answer.blocks?, status, body, if_true, Option.some.injEq] at place
      subst cursor place
      have informed : ({ feed with tip := some tip }.endReply now feed.cursor
          (behind feed.cursor [])).HasHeard feed.cursor [] now := hasHeard_endReply running rfl
      exact .inr (.inl informed)
  | nothing tip _ answer reply stage _ _ content status noContent =>
      simp only [stage, content, Answer.blocks?, status, noContent, Bool.false_eq_true, if_false,
        if_true, Option.some.injEq] at place
      rw [← place]
      exact .inr (.inl (hasHeard_atHead (by rwa [buffer_decline]) (by rwa [cursor_decline]) rfl))
  | refused tip _ answer reply stage _ _ content status noContent =>
      simp [stage, content, Answer.blocks?, status, noContent] at place
  | unanswered tip _ answer fault stage _ _ failed =>
      simp only [stage] at place
      cases content : answer.content <;> simp_all [Answer.outcome, Answer.blocks?]
  | exhausted _ reading _ stage _ atEnd handing =>
      simp only [stage] at place
      obtain ⟨notExhausted, bears⟩ := place
      obtain ⟨done, split, isCursor⟩ := bears.read
      rw [Reading.ahead_of_end bears.clean notExhausted atEnd] at split
      refine ahead (handing.hears running cursor
        (bears.canEnd.sound_of_end bears.clean notExhausted atEnd) bears.begins
        bears.clean.finish (.inl rfl) ⟨done, ?_, isCursor⟩)
      rw [← split, Reading.ahead, if_pos rfl, List.append_nil]
  | received _ reading _ _ _ _ stage _ parts _ handing =>
      simp only [stage] at place
      obtain ⟨notExhausted, bears⟩ := place
      obtain ⟨done, split, isCursor⟩ := bears.read
      rw [Reading.ahead_of_data bears.clean notExhausted parts] at split
      obtain ⟨sound, canEnd⟩ := bears.canEnd.sound_of_data bears.clean notExhausted parts
      exact ahead (handing.hears running cursor sound bears.begins (bears.clean.push _) canEnd
        ⟨done, split, isCursor⟩)
  | broke _ reading _ _ _ stage _ parts =>
      simp only [stage] at place
      exact absurd place.2.canEnd (Reading.not_canEnd place.1 parts (by simp))
  | crashed _ reading _ _ stage _ parts =>
      simp only [stage] at place
      exact absurd place.2.canEnd (Reading.not_canEnd place.1 parts (by simp))
  | admitted _ reading stage =>
      simp only [stage] at place
      exact ahead (place.continueReading feed running cursor now)
  | overreached stage => simp [stage] at place
  | recalled _ stage => simp [stage] at place
  | asked stage => simp [stage] at place
  | learned _ _ _ stage => simp [stage] at place
  | unlearned _ _ _ stage => simp [stage] at place
  | posted _ stage => simp [stage] at place
  | resumed _ stage => simp [stage] at place

end hears

/-- Whatever happens, the loop hears the reply on until it has read it to its end or the feed is
called off. -/
theorem hears_until (plan : Plan) (posts : List Query) (origin : UInt64) (blocks : List Block) :
    Fleet.Until
      (fun feed _ cancelled => feed.Conserves cancelled ∧ feed.plan = plan ∧ feed.posts = posts ∧
        feed.Hears origin blocks)
      (fun feed now cancelled => feed.plan = plan ∧ feed.posts = posts ∧
        (feed.HasHeard origin blocks now ∨ cancelled = true ∧ feed.stage = .finished)) where
  proceeds := by
    rintro feed now cancelled next ⟨conserves, isPlan, isPosts, hears⟩ proceeding
    have running := conserves.running proceeding.unfinished
    have samePlan := proceeding.feeding.plan.trans isPlan
    have samePosts : next.posts = posts := by
      rcases proceeding.working_or_post with working | ⟨_, resolved, _⟩
      · exact working.posts.trans isPosts
      · exact absurd hears.place (by simp [resolved])
    exact (hears.proceed running proceeding).imp
      (fun hearsOn => ⟨conserves.proceed proceeding, samePlan, samePosts, hearsOn⟩)
      (fun heard => ⟨samePlan, samePosts, heard⟩)
  polls := by
    rintro feed now cancelled result next ⟨conserves, isPlan, isPosts, hears⟩ polling
    have looking := polling.looking
    refine ⟨conserves.look looking polling.moves, looking.plan.trans isPlan,
      looking.posts.trans isPosts, looking.cursor.trans hears.cursor, ?_⟩
    rw [looking.stage]
    exact hears.place
  leaves := by
    rintro feed now cancelled ⟨conserves, isPlan, isPosts, hears⟩
    exact ⟨conserves.look looking_leave (.inl ⟨rfl, rfl⟩), isPlan, isPosts, hears.cursor,
      hears.place⟩
  calledOff := by
    rintro feed now ⟨conserves, kept⟩
    exact ⟨conserves.calledOff, kept⟩
  later _ kept := kept

/-! ## On the way to the next query -/

/-- The loop is on its way to the next query, from a pause that ends at an instant or from the
beginning of a round. Where it has ended, it was called off, nothing is left to ask for, or the
portal has not told its height. -/
structure OnWay (feed : Feed) (cursor : UInt64) (pause : Option Instant) (now : Instant)
    (cancelled : Bool) : Prop where
  cursor : feed.cursor = cursor
  place :
    match feed.stage with
    | .pausing target => pause = some target
    | .turning => ∀ target ∈ pause, target ≤ now
    | .asking _ answer => (∀ target ∈ pause, target ≤ now) ∧
        ∃ count < feed.asked, answer = feed.plan.portal.height count
    | .resolved _ => ∀ target ∈ pause, target ≤ now
    | .finished => cancelled = true ∨ feed.plan.query.reaches feed.cursor = false ∨
        ∃ count < feed.asked, ∃ fault,
          (feed.plan.portal.height count).content.outcome.bind Height.parse = .error fault
    | _ => False

section onWay

variable {cursor : UInt64} {pause : Option Instant}

/-- On its way, the loop waits for nothing but the end of its pause and the answer about the
height. -/
theorem OnWay.goesOn
    (onWay : feed.OnWay cursor pause now cancelled)
    (unfinished : feed.stage ≠ .finished) :
    (∃ next, feed.proceed? now cancelled = some next) ∨ (∃ target ∈ pause, now < target) ∨
      ∃ since answer, feed.stage = .asking since answer ∧ now < since + answer.delay := by
  have place := onWay.place
  cases cancelled with
  | true =>
      refine .inl ?_
      cases stage : feed.stage <;> simp_all [proceed?]
  | false =>
      cases stage : feed.stage with
      | finished => exact absurd stage unfinished
      | turning => exact .inl (by simp [proceed?, stage])
      | resolved tip => exact .inl (by simp [proceed?, stage])
      | asking since answer =>
          by_cases arrived : since + answer.delay ≤ now
          · exact .inl (by simp [proceed?, stage, arrived])
          · exact .inr (.inr ⟨since, answer, rfl, Nat.lt_of_not_le arrived⟩)
      | pausing target =>
          simp only [stage] at place
          by_cases reached : target ≤ now
          · exact .inl (by simp [proceed?, stage, reached])
          · exact .inr (.inl ⟨target, place, Nat.lt_of_not_le reached⟩)
      | _ => simp [stage] at place

/-- Every step of the loop leads on, or posts the next query. -/
theorem OnWay.proceed
    (onWay : feed.OnWay cursor pause now cancelled)
    (proceeding : feed.Proceeding now cancelled next) :
    next.posts = feed.posts ∧ next.OnWay cursor pause now cancelled ∨
      next.posts = feed.posts ++ [feed.plan.query.startingAt cursor] ∧
        ∀ target ∈ pause, target ≤ now := by
  obtain ⟨isCursor, place⟩ := onWay
  have posts : next.postings = feed.postings -> next.posts = feed.posts := fun same => by
    rw [← map_snd_postings, same, map_snd_postings]
  rcases proceeding.postings_or_post with unposted | ⟨tip, resolved, rfl⟩
  · refine .inl ⟨posts unposted, ?_⟩
    cases proceeding with
    | overreached _ beyond => exact ⟨isCursor, .inr (.inl beyond)⟩
    | calledOff _ _ isCancelled =>
        refine ⟨(feed.cursor_callOff now).trans isCursor, ?_⟩
        rw [stage_callOff]
        exact .inl isCancelled
    | recalled _ stage =>
        simp only [stage] at place
        exact ⟨isCursor, place⟩
    | asked stage =>
        simp only [stage] at place
        exact ⟨isCursor, place, feed.asked, Nat.lt_succ_self _, rfl⟩
    | learned _ _ _ stage =>
        simp only [stage] at place
        exact ⟨isCursor, place.1⟩
    | unlearned _ answer fault stage _ _ failed =>
        simp only [stage] at place
        obtain ⟨_, count, isAsked, rfl⟩ := place
        exact ⟨isCursor, .inr (.inr ⟨count, isAsked, fault, failed⟩)⟩
    | posted =>
        rw [postings_post] at unposted
        exact absurd (congrArg List.length unposted) (by simp)
    | resumed target stage _ reached =>
        simp only [stage] at place
        refine ⟨isCursor, fun pause isPause => ?_⟩
        obtain rfl : target = pause := Option.some.inj (place.symm.trans isPause)
        exact reached
    | _ => simp_all
  · simp only [resolved] at place
    exact .inr ⟨isCursor ▸ feed.posts_post now tip, place⟩

/-- The consumer leaves the loop on its way. -/
theorem OnWay.look
    (onWay : feed.OnWay cursor pause now cancelled)
    (looking : feed.Looking next) :
    next.OnWay cursor pause now cancelled := by
  refine ⟨looking.cursor.trans onWay.cursor, ?_⟩
  rw [looking.stage, looking.plan, looking.cursor, looking.asked]
  exact onWay.place

/-- Whatever happens, the loop is on its way until it posts the next query. -/
theorem onWay_until
    (plan : Plan) (posts : List Query) (cursor : UInt64) (pause : Option Instant) :
    Fleet.Until
      (fun feed now cancelled => feed.plan = plan ∧ feed.posts = posts ∧
        feed.OnWay cursor pause now cancelled)
      (fun feed now _ => feed.posts = posts ++ [plan.query.startingAt cursor] ∧
        ∀ target ∈ pause, target ≤ now) where
  proceeds := by
    rintro feed now cancelled next ⟨rfl, rfl, onWay⟩ proceeding
    exact (onWay.proceed proceeding).imp (fun leads => ⟨proceeding.feeding.plan, leads⟩) id
  polls := by
    rintro feed now cancelled result next ⟨isPlan, isPosts, onWay⟩ polling
    have looking := polling.looking
    exact ⟨looking.plan.trans isPlan, looking.posts.trans isPosts, onWay.look looking⟩
  leaves := by
    rintro feed now cancelled ⟨isPlan, isPosts, onWay⟩
    exact ⟨isPlan, isPosts, onWay.look looking_leave⟩
  calledOff := by
    rintro feed now ⟨isPlan, isPosts, isCursor, place⟩
    refine ⟨isPlan, isPosts, isCursor, ?_⟩
    split at place
    all_goals try exact place
    exact .inl rfl
  later := by
    rintro feed now cancelled duration ⟨isPlan, isPosts, isCursor, place⟩
    have past : (∀ target ∈ pause, target ≤ now) -> ∀ target ∈ pause, target ≤ now + duration :=
      fun reached target isPause => Nat.le_trans (reached target isPause) (Nat.le_add_right _ _)
    refine ⟨isPlan, isPosts, isCursor, ?_⟩
    split at place
    all_goals try exact place
    · exact past place
    · exact ⟨past place.1, place.2⟩
    · exact past place

end onWay

/-! ## Queries in turn -/

/-- A query that follows another begins behind the blocks of the reply to it. -/
theorem Bounded.follows
    (bounded : feed.Bounded)
    (heard : feed.Heard)
    {earlier later : List Query} {first second : Query}
    (split : feed.posts = earlier ++ first :: second :: later) :
    ∃ blocks, (feed.plan.portal.reply earlier.length first).content.blocks? = some blocks ∧
      first = feed.plan.query.startingAt first.firstBlock ∧
      second = feed.plan.query.startingAt (behind first.firstBlock blocks) := by
  obtain ⟨blocks, isRead⟩ := heard.of_followed split
  have isFirst := bounded.post split
  have isSecond := bounded.post (split.trans (List.append_cons ..))
  have begins : first.firstBlock = feed.plan.cursorBehind earlier := by
    rw [isFirst, Query.firstBlock_startingAt]
  rw [Plan.cursorBehind_concat, Answer.blocks_of_blocks? isRead, ← begins] at isSecond
  exact ⟨blocks, isRead, begins ▸ isFirst, isSecond⟩

/-- Two queries in a row that begin with the same number are separated by the pause. The second
one is the first one again if the reply to that holds no block, and begins with a greater number
if it does. -/
theorem Patient.consecutive
    (patient : feed.Patient now)
    (heard : feed.Heard)
    (bounded : feed.Bounded)
    {earlier later : List (Instant × Query)} {first second : Instant × Query}
    (split : feed.postings = earlier ++ first :: second :: later) :
    (first.2.firstBlock = second.2.firstBlock ->
      feed.plan.stopAtHead = false ∧ first.1 + feed.plan.headPoll ≤ second.1) ∧
    ∃ blocks, (feed.plan.portal.reply earlier.length first.2).content.blocks? = some blocks ∧
      (blocks = [] -> second.2 = first.2) ∧
      (blocks ≠ [] ->
        (∀ block ∈ blocks, first.2.firstBlock ≤ block.number ∧
          block.number.toNat < UInt64.size - 1) ->
        first.2.firstBlock < second.2.firstBlock) := by
  have spaced := List.isChain_iff_forall_rel_of_append_cons_cons.mp patient.spaced split
  have posts :
      feed.posts = earlier.map Prod.snd ++ first.2 :: second.2 :: later.map Prod.snd := by
    rw [← map_snd_postings, split, List.map_append, List.map_cons, List.map_cons]
  obtain ⟨blocks, isRead, isFirst, isSecond⟩ := bounded.follows heard posts
  rw [List.length_map] at isRead
  refine ⟨spaced, blocks, isRead, ?_, ?_⟩
  · rintro rfl
    rw [isSecond]
    exact isFirst.symm
  · intro someBlocks inRange
    rw [isSecond, Query.firstBlock_startingAt]
    exact Ndjson.lt_behind someBlocks inRange

/-- While its reply is awaited, the latest query is the one from the cursor on. -/
theorem posting_latest
    (patient : feed.Patient now)
    (heard : feed.Heard)
    (bounded : feed.Bounded)
    {earlier : List Query} {latest : Query}
    (split : feed.posts = earlier ++ [latest])
    {tip : BlockRef} {since : Instant} {answer : Timed (Answer Reply)}
    (stage : feed.stage = .posting tip since answer) :
    feed.cursor = latest.firstBlock ∧ latest = feed.plan.query.startingAt latest.firstBlock ∧
      answer.content = (feed.plan.portal.reply earlier.length latest).content := by
  have isLatest := bounded.post split
  have isCursor : feed.cursor = latest.firstBlock := by
    rw [← map_snd_postings] at split
    obtain ⟨before, last, isPostings, _, isLast⟩ := List.map_eq_append_iff.mp split
    obtain ⟨posting, rfl, rfl⟩ := List.map_eq_singleton_iff.mp isLast
    have owes := (patient.latest posting (by rw [isPostings, List.getLast?_concat]; rfl)).2
    simp only [Owes, stage] at owes
    exact owes.symm
  refine ⟨isCursor, ?_, ?_⟩
  · rw [isLatest, Query.firstBlock_startingAt]
  · have isAnswers : feed.answers = feed.plan.answersTo feed.posts := rfl
    rw [split, Plan.answersTo_append_cons] at isAnswers
    have vouches := heard.latest (feed.plan.portal.reply earlier.length latest).content
      (by rw [isAnswers]; exact List.getLast?_concat)
    simp only [Vouches, stage] at vouches
    exact vouches

end Feed

namespace Fleet

variable {fleet : Fleet} {index : Nat} {member : Member}

/-- Whatever happens, the loop hears a reply on until it has read it to its end, unless the feed
is called off. Then it is at the head exactly if the reply holds no block. -/
theorem hears_until_end
    {origin : UInt64} {blocks : List Block}
    (found : fleet.members[index]? = some member)
    (conserves : member.feed.Conserves (fleet.isCancelled member))
    (hears : member.feed.Hears origin blocks)
    (inRange : ∀ block ∈ blocks, origin ≤ block.number ∧ block.number.toNat < UInt64.size - 1)
    (more : List Action) :
    (∃ later, (fleet.run more).members[index]? = some later ∧ later.feed.Hears origin blocks) ∨
      ∃ first rest later, more = first ++ rest ∧
        (fleet.run first).members[index]? = some later ∧
        later.feed.plan = member.feed.plan ∧ later.feed.posts = member.feed.posts ∧
        (blocks = [] ∧ later.feed.cursor = origin ∧
            (if member.feed.plan.stopAtHead then
              later.feed.stage = .finished ∧ later.feed.buffer.phase = .closed
            else later.feed.stage =
              .pausing ((fleet.run first).now + member.feed.plan.headPoll)) ∨
          blocks ≠ [] ∧ origin < later.feed.cursor ∧ later.feed.stage = .turning ∨
          (fleet.run first).isCancelled later = true ∧ later.feed.stage = .finished) := by
  refine ((Feed.hears_until member.feed.plan member.feed.posts origin blocks).run found
    ⟨conserves, rfl, rfl, hears⟩ more).imp ?_ ?_
  · rintro ⟨later, isLater, _, _, _, hearsOn⟩
    exact ⟨later, isLater, hearsOn⟩
  · rintro ⟨first, rest, later, isMore, isLater, isPlan, isPosts, comes⟩
    refine ⟨first, rest, later, isMore, isLater, isPlan, isPosts, ?_⟩
    rcases comes with hasHeard | calledOff
    · rw [← isPlan, ← or_assoc]
      exact .inl (hasHeard.atHead_or_onward inRange)
    · exact .inr (.inr calledOff)

/-- Whatever happens during a pause or at the beginning of a round, the loop is on its way until
it posts the query from its cursor on, at the end of the pause or later. -/
theorem onWay_until_posted
    {pause : Option Instant}
    (found : fleet.members[index]? = some member)
    (begins : member.feed.stage = .turning ∧ pause = none ∨
      (∃ target, member.feed.stage = .pausing target ∧ pause = some target))
    (more : List Action) :
    (∃ later, (fleet.run more).members[index]? = some later ∧
        later.feed.posts = member.feed.posts ∧
        later.feed.OnWay member.feed.cursor pause (fleet.run more).now
          ((fleet.run more).isCancelled later) ∧
        (later.feed.stage ≠ .finished ->
          (∃ next, later.feed.proceed? (fleet.run more).now
            ((fleet.run more).isCancelled later) = some next) ∨
          (∃ target ∈ pause, (fleet.run more).now < target) ∨
          ∃ since answer, later.feed.stage = .asking since answer ∧
            (fleet.run more).now < since + answer.delay)) ∨
      ∃ first rest later, more = first ++ rest ∧
        (fleet.run first).members[index]? = some later ∧
        later.feed.posts =
          member.feed.posts ++ [member.feed.plan.query.startingAt member.feed.cursor] ∧
        ∀ target ∈ pause, target ≤ (fleet.run first).now := by
  have onWay :
      member.feed.OnWay member.feed.cursor pause fleet.now (fleet.isCancelled member) := by
    refine ⟨rfl, ?_⟩
    rcases begins with ⟨turning, rfl⟩ | ⟨target, pausing, rfl⟩
    · rw [turning]
      exact nofun
    · rw [pausing]
  refine ((Feed.onWay_until member.feed.plan member.feed.posts member.feed.cursor pause).run found
    ⟨rfl, rfl, onWay⟩ more).imp ?_ id
  rintro ⟨later, isLater, _, isPosts, onWayThen⟩
  exact ⟨later, isLater, isPosts, onWayThen, onWayThen.goesOn⟩

/-- A feed repeats a query only after a pause at the finalized head, and it comes there exactly
behind replies without blocks, as long as the numbers of blocks are neither below the first one
that was asked for nor the greatest there is.

Of two queries in a row, the second one is the first one again if the reply to that holds no
block, and begins with a greater number if it does; whatever the blocks are, two queries in a
row that begin with the same number are separated by the pause, and a feed that ends at the head
never posts such queries.

Whatever happens while a reply is awaited that can be read to its end, the loop hears it until
it has read it to its end, unless the feed is called off. Then it ends or begins to pause if the
reply holds no block, and otherwise it is at the beginning of a round with a greater cursor.

Whatever happens during a pause or at the beginning of a round, the loop is on its way until it
posts the query from its cursor on, at the end of the pause or later. On its way it waits for
nothing but that and the answer about the height. -/
theorem feeds_pause_exactly_at_head (tokens : Tokens) (actions : List Action) :
    let fleet := (create tokens).run actions
    ∀ (index : Nat) (member : Member), fleet.members[index]? = some member ->
      let feed := member.feed
      let plan := feed.plan
      (∀ earlier first second later, feed.postings = earlier ++ first :: second :: later ->
        (first.2.firstBlock = second.2.firstBlock ->
          plan.stopAtHead = false ∧ first.1 + plan.headPoll ≤ second.1) ∧
        ∃ blocks, (plan.portal.reply earlier.length first.2).content.blocks? = some blocks ∧
          (blocks = [] -> second.2 = first.2) ∧
          (blocks ≠ [] ->
            (∀ block ∈ blocks, first.2.firstBlock ≤ block.number ∧
              block.number.toNat < UInt64.size - 1) ->
            first.2.firstBlock < second.2.firstBlock)) ∧
      (∀ earlier latest blocks tip since answer, feed.posts = earlier ++ [latest] ->
        feed.stage = .posting tip since answer ->
        (plan.portal.reply earlier.length latest).content.blocks? = some blocks ->
        (∀ block ∈ blocks, latest.firstBlock ≤ block.number ∧
          block.number.toNat < UInt64.size - 1) ->
        latest = plan.query.startingAt latest.firstBlock ∧ ∀ more,
          (∃ later, (fleet.run more).members[index]? = some later ∧
            later.feed.Hears latest.firstBlock blocks) ∨
          ∃ first rest later, more = first ++ rest ∧
            (fleet.run first).members[index]? = some later ∧
            later.feed.plan = plan ∧ later.feed.posts = feed.posts ∧
            (blocks = [] ∧ later.feed.cursor = latest.firstBlock ∧
                (if plan.stopAtHead then
                  later.feed.stage = .finished ∧ later.feed.buffer.phase = .closed
                else later.feed.stage = .pausing ((fleet.run first).now + plan.headPoll)) ∨
              blocks ≠ [] ∧ latest.firstBlock < later.feed.cursor ∧
                later.feed.stage = .turning ∨
              (fleet.run first).isCancelled later = true ∧ later.feed.stage = .finished)) ∧
      (∀ pause,
        feed.stage = .turning ∧ pause = none ∨
          (∃ target, feed.stage = .pausing target ∧ pause = some target) ->
        ∀ more,
          (∃ later, (fleet.run more).members[index]? = some later ∧
            later.feed.posts = feed.posts ∧
            later.feed.OnWay feed.cursor pause (fleet.run more).now
              ((fleet.run more).isCancelled later) ∧
            (later.feed.stage ≠ .finished ->
              (∃ next, later.feed.proceed? (fleet.run more).now
                ((fleet.run more).isCancelled later) = some next) ∨
              (∃ target ∈ pause, (fleet.run more).now < target) ∨
              ∃ since answer, later.feed.stage = .asking since answer ∧
                (fleet.run more).now < since + answer.delay)) ∨
          ∃ first rest later, more = first ++ rest ∧
            (fleet.run first).members[index]? = some later ∧
            later.feed.posts = feed.posts ++ [plan.query.startingAt feed.cursor] ∧
            ∀ target ∈ pause, target ≤ (fleet.run first).now) ∧
      ∀ reply, (Answer.ok reply).blocks? = some [] ↔
        (reply.status == 200) = false ∧ (reply.status == 204) = true ∨
          (reply.status == 200) = true ∧ ∀ parts ∈ reply.body, Reply.isWhole parts = true ∧
            ∀ line ∈ Line.pieces (Reply.octets parts), Line.isBlank line = true := by
  intro fleet index member found feed plan
  have mem : member ∈ fleet.members := List.mem_of_getElem? found
  have patient : feed.Patient fleet.now := Feed.patient_invariant.run tokens actions member mem
  obtain ⟨conserves, heard, _, bounded⟩ := Feed.requests_invariant.run tokens actions member mem
  refine ⟨fun _ _ _ _ split => patient.consecutive heard bounded split, ?_,
    fun _ begins more => onWay_until_posted found begins more, Answer.blocks?_eq_some_nil_iff⟩
  intro earlier latest blocks tip since answer split stage isRead inRange
  obtain ⟨isCursor, isLatest, isAnswer⟩ :=
    Feed.posting_latest patient heard bounded split stage
  have hears : feed.Hears latest.firstBlock blocks := by
    refine ⟨isCursor, ?_⟩
    rw [stage]
    exact (congrArg Answer.blocks? isAnswer).trans isRead
  exact ⟨isLatest, hears_until_end found conserves hears inRange⟩

/-- A feed that finds nothing behind the third block asks for it again five seconds later, and
then for what is behind the seventh. While it waits for the first reply it hears that there is
nothing until it pauses or is called off, and while it pauses it posts nothing but that query. -/
theorem feeds_pause_exactly_at_head_in_short_run :
    let line := Bytes.ofString "\x7b\"header\":\x7b\"number\":7\x7d\x7d"
    let portal := Portal.scripted [] [⟨0, .ok .noContent⟩, ⟨0, .ok ⟨200, some [⟨0, .data line⟩]⟩⟩]
    let query := (Query.ofSelection (.empty .evm)).startingAt 3
    let opened : Action := .opened ⟨"", "", {}⟩ portal query {}
    let posting := (create .empty).run (opened :: List.replicate 3 (.proceed 0))
    let pausing := (create .empty).run (opened :: List.replicate 4 (.proceed 0))
    let fleet := (create .empty).run (opened :: List.replicate 4 (.proceed 0) ++
      .pass (Duration.ofSeconds 5) :: List.replicate 12 (.proceed 0))
    (∃ member first second third, fleet.members[0]? = some member ∧
      member.feed.postings = [first, second, third] ∧
      first.1 + member.feed.plan.headPoll ≤ second.1 ∧
      second.2 = first.2 ∧
      second.2.firstBlock < third.2.firstBlock) ∧
    (∀ more, (∃ later, (posting.run more).members[0]? = some later ∧ later.feed.Hears 3 []) ∨
      ∃ first rest later, more = first ++ rest ∧
        (posting.run first).members[0]? = some later ∧
        (later.feed.stage = .pausing ((posting.run first).now + Duration.ofSeconds 5) ∨
          (posting.run first).isCancelled later = true)) ∧
    ∃ member target, pausing.members[0]? = some member ∧ member.feed.stage = .pausing target ∧
      ∀ more, (∃ later, (pausing.run more).members[0]? = some later ∧
          later.feed.posts = member.feed.posts) ∨
        ∃ first rest later, more = first ++ rest ∧
          (pausing.run first).members[0]? = some later ∧
          later.feed.posts = member.feed.posts ++ [query] ∧ target ≤ (pausing.run first).now := by
  intro line portal query opened posting pausing fleet
  have planned : ∀ (actions : List Action) (member : Member),
      ((create .empty).run actions).plans = [Client.plan ⟨"", "", {}⟩ portal query {}] ->
      ((create .empty).run actions).members[0]? = some member ->
      member.feed.plan = Client.plan ⟨"", "", {}⟩ portal query {} :=
    fun _ _ portals found => observe_eq portals found
  have empty : (portal.reply 0 query).content.blocks? = some [] := rfl
  refine ⟨?_, ?_, ?_⟩
  · have shape : fleet.members.map (fun member => member.feed.postings.map fun posting =>
        posting.2.firstBlock) = [[3, 3, 8]] := by
      decide +kernel
    obtain ⟨member, found, numbers⟩ := exists_of_observed shape
    have plan := planned _ member (plans_run .empty _) found
    obtain ⟨first, others, isPostings, isFirst, isOthers⟩ := List.map_eq_cons_iff.mp numbers
    obtain ⟨second, rest, rfl, isSecond, isRest⟩ := List.map_eq_cons_iff.mp isOthers
    obtain ⟨third, rfl, isThird⟩ := List.map_eq_singleton_iff.mp isRest
    obtain ⟨follow, -⟩ := feeds_pause_exactly_at_head .empty _ 0 member found
    obtain ⟨apart, nothing, isNothing, repeats, -⟩ := follow [] first second [third] isPostings
    obtain ⟨-, blocks, isRead, -, grows⟩ := follow [first] second third [] isPostings
    rw [plan] at isNothing isRead
    have read : (portal.reply 1 query).content.blocks?.map (·.map Block.number) = some [7] := by
      decide +kernel
    replace isNothing : (portal.reply 0 query).content.blocks? = some nothing := isNothing
    replace isRead : (portal.reply 1 query).content.blocks? = some blocks := isRead
    obtain ⟨block, rfl, isSeventh⟩ : ∃ block, blocks = [block] ∧ block.number = 7 :=
      List.map_eq_singleton_iff.mp (Option.some.inj ((congrArg _ isRead).symm.trans read))
    refine ⟨member, first, second, third, found, isPostings,
      (apart (isFirst.trans isSecond.symm)).2,
      repeats (Option.some.inj (isNothing.symm.trans empty)), grows (List.cons_ne_nil _ _) ?_⟩
    intro other isOther
    rw [List.mem_singleton.mp isOther, isSeventh, isSecond]
    exact ⟨by decide, by decide⟩
  · have shape : posting.members.map (fun member => (member.feed.posts.map Query.firstBlock,
        match member.feed.stage with | .posting .. => true | _ => false)) = [([3], true)] := by
      decide +kernel
    obtain ⟨member, found, seen⟩ := exists_of_observed shape
    have plan := planned _ member (plans_run .empty _) found
    obtain ⟨numbers, isPosting⟩ := Prod.mk.inj seen
    obtain ⟨latest, isPosts, isLatest⟩ := List.map_eq_singleton_iff.mp numbers
    obtain ⟨-, hears, -⟩ := feeds_pause_exactly_at_head .empty _ 0 member found
    cases stage : member.feed.stage with
    | posting tip since answer =>
        obtain ⟨-, comes⟩ := hears [] latest [] tip since answer isPosts stage
          (by rw [plan]; exact empty) (by simp)
        intro more
        rcases comes more with ⟨later, isLater, hearsOn⟩ |
          ⟨first, rest, later, isMore, isLater, isPlan, -, paused | ⟨absurd, -⟩ | ⟨cancelled, -⟩⟩
        · exact .inl ⟨later, isLater, isLatest ▸ hearsOn⟩
        · obtain ⟨-, -, stands⟩ := paused
          rw [plan] at stands
          exact .inr ⟨first, rest, later, isMore, isLater, .inl stands⟩
        · exact (absurd rfl).elim
        · exact .inr ⟨first, rest, later, isMore, isLater, .inr cancelled⟩
    | _ =>
        rw [stage] at isPosting
        cases isPosting
  · have shape : pausing.members.map (fun member => (member.feed.cursor,
        match member.feed.stage with | .pausing _ => true | _ => false)) = [(3, true)] := by
      decide +kernel
    obtain ⟨member, found, seen⟩ := exists_of_observed shape
    have plan := planned _ member (plans_run .empty _) found
    obtain ⟨isCursor, isPausing⟩ := Prod.mk.inj seen
    obtain ⟨-, -, onWay, -⟩ := feeds_pause_exactly_at_head .empty _ 0 member found
    cases stage : member.feed.stage with
    | pausing target =>
        refine ⟨member, target, found, stage, fun more => ?_⟩
        rcases onWay (some target) (.inr ⟨target, stage, rfl⟩) more with
          ⟨later, isLater, isPosts, -⟩ | ⟨first, rest, later, isMore, isLater, isPosts, waited⟩
        · exact .inl ⟨later, isLater, isPosts⟩
        · refine .inr ⟨first, rest, later, isMore, isLater, ?_, waited target rfl⟩
          rw [isPosts, plan, isCursor]
          rfl
    | _ =>
        rw [stage] at isPausing
        cases isPausing

end Fleet
end BlockFeed
