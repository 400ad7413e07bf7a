import BlockFeed.Proofs.Feed.Ascent
import BlockFeed.Proofs.Feed.Backpressure
import BlockFeed.Proofs.Fairness
import Mathlib.Data.Prod.Lex

/-!
# Feeds that come to their end

Between two queries the loop of a feed takes a bounded number of steps, whatever its
portal answers: each of them lowers a weight of the place where the loop stands. If the
portal fills the query, and the query ends below the greatest number, the number of
queries is bounded too, and the loop never waits for something that does not come: what
it waits for arrives in time, or is a release, which comes as soon as the consumer asks.
So it comes to its end on every fair schedule.
-/

namespace BlockFeed

/-- The parts of an answer that are read. -/
def Answer.parts : Answer Reply -> List (Timed Item)
  | .ok reply => if reply.status == 200 then reply.body.getD [] else []
  | _ => []

theorem Answer.parts_of_body
    {reply : Reply} {body : List (Timed Item)}
    (status : (reply.status == 200) = true)
    (isBody : reply.body = some body) :
    (Answer.ok reply).parts = body := by
  rw [parts, if_pos status, isBody]
  rfl

/-- What can be read to its end arrives as a whole. -/
theorem Answer.isWhole_of_blocks?
    {answer : Answer Reply}
    (isRead : answer.blocks?.isSome = true) :
    Reply.isWhole answer.parts = true := by
  cases answer with
  | ok reply =>
      rw [parts]
      split
      · next status =>
          cases body : reply.body with
          | none => rfl
          | some parts =>
              simp only [blocks?, status, body, if_true] at isRead
              split at isRead
              · next isWhole => exact isWhole
              · cases isRead
      · rfl
  | _ => rfl

namespace Buffer

/-- There is a unit and its release is due. -/
structure IsRipe (buffer : Buffer α) : Prop where
  pending : buffer.pending.isSome = true
  due : buffer.due = true
  filled : buffer.filled = true

variable {buffer rest : Buffer α} {now : Instant} {deadline : Option Instant}

/-- Blocks that reach the least size make the unit ripe. -/
theorem isRipe_grown
    {bytes : Nat} (now : Instant) (blocks : List α)
    (full : buffer.config.least ≤ buffer.pendingBytes + bytes) :
    (buffer.grown now blocks bytes).IsRipe :=
  ⟨rfl, by simp [grown, full], rfl⟩

/-- A take from a running buffer releases a ripe unit, unless its timer overflows. -/
theorem IsRipe.taking
    {result : Take α}
    (ripe : buffer.IsRipe)
    (running : buffer.phase = .running)
    (taking : Taking buffer now deadline result rest) :
    (result = .overflow ∧ rest = buffer) ∨ rest.releases = buffer.releases + 1 := by
  cases taking with
  | reported _ failed => exact absurd (running.symm.trans failed) nofun
  | silent failed => exact absurd (running.symm.trans failed) nofun
  | remainder _ closed => exact absurd (running.symm.trans closed) nofun
  | ended closed => exact absurd (running.symm.trans closed) nofun
  | overflow => exact .inl ⟨rfl, rfl⟩
  | release => exact .inr rfl
  | waiting idle _ _ notDue =>
      exact absurd ⟨by simp [noticed, ripe.due], ripe.filled⟩ (notDue ripe.pending)

end Buffer

namespace Feed

variable {feed next : Feed} {now : Instant} {cancelled : Bool} {last : UInt64}

/-! ## Between two queries -/

/-- A bound for the steps that the loop can take from where it stands until it posts
another query or ends. -/
def Stage.weight : Stage -> Nat
  | .finished => 0
  | .resolved _ => 1
  | .asking _ _ => 2
  | .turning => 3
  | .pausing _ => 4
  -- Each part of a body takes two steps: it is received, and the loop may be held back.
  | .held _ body => if body.exhausted then 5 else 2 * body.rest.length + 7
  | .reading _ body => 2 * body.rest.length + 6
  | .posting _ _ answer => 2 * answer.content.parts.length + 7

section weight

variable (ticket : Nat) {body : Reading}

theorem Stage.weight_held_of_end (exhausted : body.exhausted = true) :
    (held ticket body).weight = 5 := by
  rw [weight, if_pos exhausted]

theorem Stage.weight_held_of_more (more : body.exhausted = false) :
    (held ticket body).weight = 2 * body.rest.length + 7 := by
  rw [weight, if_neg (by simp [more])]

theorem Stage.weight_held_le : (held ticket body).weight ≤ 2 * body.rest.length + 7 := by
  cases more : body.exhausted with
  | false => exact Nat.le_of_eq (weight_held_of_more ticket more)
  | true =>
      rw [weight_held_of_end ticket more]
      omega

theorem Stage.weight_pos {stage : Stage} (unfinished : stage ≠ .finished) :
    0 < stage.weight := by
  cases stage with
  | finished => exact absurd rfl unfinished
  | held _ body =>
      rw [weight]
      split <;> omega
  | _ => exact Nat.succ_pos _

end weight

theorem Stage.IsBehindBody.weight_le {stage : Stage} (behind : stage.IsBehindBody) :
    stage.weight ≤ 4 := by
  cases stage with
  | turning => decide
  | pausing _ => exact Nat.le_refl _
  | finished => exact Nat.zero_le _
  | _ => exact behind.elim

/-- Handing on lines leads to a place that is not heavier than being held back. -/
theorem Handing.weight_le
    {reading : Reading} {lines : List Bytes}
    (handing : feed.Handing now reading lines next) :
    next.stage.weight ≤ (Stage.held 0 reading).weight := by
  rcases handing.stage with ⟨exhausted, behind⟩ | finished | ⟨cursor, ⟨more, reads⟩ | held⟩
  · rw [Stage.weight_held_of_end 0 exhausted]
    exact Nat.le_succ_of_le behind.weight_le
  · rw [finished]
    exact Nat.zero_le _
  · rw [reads, Stage.weight_held_of_more 0 more]
    exact Nat.le_succ _
  · rw [held]
    exact Nat.le_refl _

/-- Every step of the loop that posts no query lowers its weight. -/
theorem Proceeding.weight_lt
    (proceeding : feed.Proceeding now cancelled next)
    (posts : next.posts = feed.posts) :
    next.stage.weight < feed.stage.weight := by
  -- Whatever ends the loop leaves no weight at all.
  have positive := Stage.weight_pos proceeding.unfinished
  cases proceeding with
  | overreached => exact positive
  | calledOff =>
      rw [stage_callOff]
      exact positive
  | recalled _ turning => simp [turning, Stage.weight]
  | asked turning => simp [turning, askHeight, Stage.weight]
  | learned _ _ _ asking => simp [asking, Stage.weight]
  | unlearned => exact positive
  | posted =>
      rw [posts_post] at posts
      exact absurd (congrArg List.length posts) (by simp)
  | opened _ _ _ _ _ posting _ _ content status body =>
      simp [posting, content, Stage.weight, Answer.parts_of_body status body]
  | bodiless tip _ _ _ posting =>
      have behind :=
        isBehindBody_endReply { feed with tip := some tip } now feed.cursor feed.cursor
      rw [posting, Stage.weight]
      exact Nat.lt_of_le_of_lt behind.weight_le (by omega)
  | nothing _ _ _ reply posting =>
      have behind := isBehindBody_atHead (feed.decline now reply) now
      rw [posting, Stage.weight]
      exact Nat.lt_of_le_of_lt behind.weight_le (by omega)
  | refused => exact positive
  | unanswered => exact positive
  | exhausted _ reading _ stage _ _ handing =>
      have bound := handing.weight_le
      rw [Stage.weight_held_of_end 0 rfl] at bound
      rw [stage, Stage.weight]
      omega
  | received _ reading _ _ rest _ stage _ parts _ handing =>
      have bound := Nat.le_trans handing.weight_le (Stage.weight_held_le 0)
      rw [stage, Stage.weight, parts, List.length_cons]
      exact Nat.lt_of_le_of_lt bound (by simp only; omega)
  | broke => exact positive
  | crashed => exact positive
  | admitted ticket reading held =>
      rw [held]
      rcases feed.stage_continueReading now reading with ⟨exhausted, behind⟩ | ⟨more, reads⟩
      · rw [Stage.weight_held_of_end ticket exhausted]
        exact Nat.lt_succ_of_le behind.weight_le
      · rw [reads, Stage.weight_held_of_more ticket more]
        exact Nat.lt_succ_self _
  | resumed _ pausing => simp [pausing, Stage.weight]

/-! ## Bodies without silence -/

/-- The body that the loop reads, or is about to read, arrives as a whole. -/
def Whole (feed : Feed) : Prop :=
  match feed.stage with
  | .posting _ _ answer => Reply.isWhole answer.content.parts = true
  | .reading _ body => Reply.isWhole body.rest = true
  | .held _ body => Reply.isWhole body.rest = true
  | _ => True

theorem whole_of_behind (behind : feed.stage.IsBehindBody) : feed.Whole := by
  unfold Whole
  split
  · next posting => simp [posting, Stage.IsBehindBody] at behind
  · next reads => simp [reads, Stage.IsBehindBody] at behind
  · next held => simp [held, Stage.IsBehindBody] at behind
  · trivial

theorem whole_continueReading
    {body : Reading}
    (isWhole : Reply.isWhole body.rest = true) :
    (feed.continueReading now body).Whole := by
  rcases feed.stage_continueReading now body with ⟨_, behind⟩ | ⟨_, reads⟩
  · exact whole_of_behind behind
  · rw [Whole, reads]
    exact isWhole

theorem Handing.whole
    {body : Reading} {lines : List Bytes}
    (handing : feed.Handing now body lines next)
    (isWhole : Reply.isWhole body.rest = true) :
    next.Whole := by
  rcases handing.stage with ⟨_, behind⟩ | finished | ⟨cursor, ⟨_, reads⟩ | held⟩
  · exact whole_of_behind behind
  · exact whole_of_behind (finished ▸ trivial)
  · rw [Whole, reads]
    exact isWhole
  · rw [Whole, held]
    exact isWhole

/-- What a portal that fills the query answers arrives as a whole. -/
theorem isWhole_of_fills
    (filled : feed.plan.IsFilledUpTo last)
    (covers : feed.plan.query.covers feed.cursor = true) :
    Reply.isWhole (feed.plan.portal.reply feed.posted
      (feed.plan.query.startingAt feed.cursor)).content.parts = true := by
  obtain ⟨blocks, isRead, _⟩ := filled.fills feed.posted feed.cursor covers
  exact Answer.isWhole_of_blocks? (by rw [isRead]; rfl)

/-- Every step of the loop keeps the bodies whole. -/
theorem Whole.proceed
    (whole : feed.Whole)
    (filled : feed.plan.IsFilledUpTo last)
    (conserves : feed.Conserves cancelled)
    (within : feed.Within)
    (bounded : feed.Bounded)
    (proceeding : feed.Proceeding now cancelled next) :
    next.Whole := by
  cases proceeding with
  | calledOff => exact whole_of_behind (feed.stage_callOff now ▸ trivial)
  | posted tip resolved =>
      simp only [Conserves, resolved] at conserves
      have place := conserves.2.trans conserves.1.position_eq
      have reaches := within.reaches (by simp [resolved]) (by simp [resolved])
      refine isWhole_of_fills filled ?_
      rw [place] at reaches ⊢
      exact (bounded.ascends filled).covers reaches
  | opened _ _ _ _ _ posting _ _ content status body =>
      simp only [Whole, posting, content, Answer.parts_of_body status body] at whole
      exact whole
  | bodiless => exact whole_of_behind (isBehindBody_endReply _ now _ _)
  | nothing => exact whole_of_behind (isBehindBody_atHead _ now)
  | exhausted _ _ _ _ _ atEnd handing => exact handing.whole (by simp [atEnd])
  | received _ body _ _ _ _ reads _ parts _ handing =>
      simp only [Whole, reads, parts, Reply.isWhole_data] at whole
      exact handing.whole whole
  | admitted ticket body held =>
      simp only [Whole, held] at whole
      exact whole_continueReading whole
  | _ => trivial

/-! ## Loops that are held back -/

/-- The loop is held back only while the unit is ripe. -/
def Brimful (feed : Feed) : Prop :=
  ∀ ticket body, feed.stage = .held ticket body ->
    ticket < feed.buffer.releases ∨ (ticket = feed.buffer.releases ∧ feed.buffer.IsRipe)

theorem brimful_of_behind (behind : feed.stage.IsBehindBody) : feed.Brimful := by
  intro ticket body held
  simp [held, Stage.IsBehindBody] at behind

theorem brimful_continueReading (feed : Feed) (now : Instant) (body : Reading) :
    (feed.continueReading now body).Brimful := by
  rcases feed.stage_continueReading now body with ⟨_, behind⟩ | ⟨_, reads⟩
  · exact brimful_of_behind behind
  · intro ticket body held
    exact absurd (reads.symm.trans held) nofun

theorem Handing.brimful
    {body : Reading} {lines : List Bytes}
    (handing : feed.Handing now body lines next)
    (ordered : feed.buffer.config.least ≤ feed.buffer.config.greatest) :
    next.Brimful := by
  cases handing with
  | spoiled => exact brimful_of_behind trivial
  | blank => exact feed.brimful_continueReading now body
  | added => exact brimful_continueReading _ now _
  | filled part _ _ _ full =>
      intro ticket body held
      obtain ⟨rfl, _⟩ := Stage.held.inj held
      exact .inr ⟨rfl, Buffer.isRipe_grown now part.blocks (Nat.le_trans ordered full)⟩
  | discarded => exact feed.brimful_continueReading now _

/-- Every step of the loop that holds it back leaves a ripe unit behind. -/
theorem Proceeding.brimful
    (proceeding : feed.Proceeding now cancelled next)
    (ordered : feed.buffer.config.least ≤ feed.buffer.config.greatest) :
    next.Brimful := by
  cases proceeding with
  | calledOff => exact brimful_of_behind (feed.stage_callOff now ▸ trivial)
  | bodiless => exact brimful_of_behind (isBehindBody_endReply _ now _ _)
  | nothing => exact brimful_of_behind (isBehindBody_atHead _ now)
  | exhausted _ _ _ _ _ _ handing => exact handing.brimful ordered
  | received _ _ _ _ _ _ _ _ _ _ handing => exact handing.brimful ordered
  | admitted _ body => exact feed.brimful_continueReading now body
  | _ => nofun

/-- When the consumer asks while the unit is ripe, it is released, unless the consumer has gone
or a timer overflows. -/
theorem Polling.of_ripe
    {result : Option Yield}
    (polling : feed.Polling now result next)
    (ripe : feed.buffer.IsRipe)
    (running : feed.buffer.phase = .running)
    (flowing : feed.Flowing) :
    (next.buffer = feed.buffer ∧ (.overflow ∈ next.yields ∨ feed.consumer = .gone)) ∨
      next.buffer.releases = feed.buffer.releases + 1 := by
  have yields := polling.yields
  cases polling with
  | unrepresentable => exact .inl ⟨rfl, .inl (by simp [yields])⟩
  | took _ _ _ _ taking =>
      exact .inr ((ripe.taking running taking).resolve_left nofun)
  | ended _ _ _ taking =>
      exact .inr ((ripe.taking running taking).resolve_left nofun)
  | failed _ _ _ _ taking =>
      exact .inr ((ripe.taking running taking).resolve_left nofun)
  | waited _ _ _ _ taking =>
      exact .inr ((ripe.taking running taking).resolve_left nofun)
  | overflowed _ _ _ taking =>
      exact (ripe.taking running taking).imp (fun same => ⟨same.2, .inl (by simp [yields])⟩) id
  | warned isWarned => exact absurd isWarned flowing.notWarned
  | silent isSilent => exact .inl ⟨rfl, isSilent.imp flowing.isOver id⟩

/-- The consumer keeps a loop held back only by a ripe unit. -/
theorem Brimful.poll
    {result : Option Yield}
    (brimful : feed.Brimful)
    (conserves : feed.Conserves cancelled)
    (flowing : feed.buffer.phase = .running -> feed.Flowing)
    (polling : feed.Polling now result next) :
    next.Brimful := by
  intro ticket body held
  rw [polling.looking.stage] at held
  have running := conserves.running (by simp [held])
  rcases brimful ticket body held with below | ⟨rfl, ripe⟩
  · exact .inl (Nat.lt_of_lt_of_le below polling.releases_le)
  · rcases polling.of_ripe ripe running (flowing running) with ⟨same, _⟩ | released
    · exact .inr (by rw [same]; exact ⟨rfl, ripe⟩)
    · exact .inl (by omega)

/-! ## Feeds whose portal fills their query -/

/-- What is true at all times of a feed whose portal fills its query. -/
structure Tame (feed : Feed) (last : UInt64) (cancelled : Bool) : Prop where
  filled : feed.plan.IsFilledUpTo last
  requests : feed.Conserves cancelled ∧ feed.Heard ∧ feed.Within ∧ feed.Bounded
  flowing : feed.buffer.phase = .running -> feed.Flowing
  whole : feed.Whole
  ordered : feed.buffer.config.least ≤ feed.buffer.config.greatest
  brimful : feed.Brimful

theorem tame_lasting (last : UInt64) :
    Fleet.Lasting fun feed _ cancelled => feed.Tame last cancelled where
  proceeds {feed now cancelled next} tame proceeding := by
    obtain ⟨conserves, _, within, bounded⟩ := tame.requests
    exact
      { filled := proceeding.feeding.plan ▸ tame.filled
        requests := requests_invariant.proceeds tame.requests proceeding
        flowing := flowing_invariant.proceeds tame.flowing proceeding
        whole := tame.whole.proceed tame.filled conserves within bounded proceeding
        ordered := proceeding.feeding.buffer.config_and_releases.1 ▸ tame.ordered
        brimful := proceeding.brimful tame.ordered }
  polls {feed now cancelled result next} tame polling :=
    { filled := polling.looking.plan ▸ tame.filled
      requests := requests_invariant.polls tame.requests polling
      flowing := @flowing_invariant.polls feed now cancelled result next tame.flowing polling
      whole := by
        rw [Whole, polling.looking.stage]
        exact tame.whole
      ordered := polling.config ▸ tame.ordered
      brimful := tame.brimful.poll tame.requests.1 tame.flowing polling }
  leaves {feed now cancelled} tame :=
    { filled := tame.filled
      requests := @requests_invariant.leaves feed now cancelled tame.requests
      flowing := @flowing_invariant.leaves feed now cancelled tame.flowing
      whole := tame.whole
      ordered := tame.ordered
      brimful := tame.brimful }
  calledOff {feed now} tame :=
    { tame with requests := @requests_invariant.calledOff feed now tame.requests }
  later _ tame := tame

/-- Every feed whose portal fills its query is tame at all times. -/
theorem tame_invariant (last : UInt64) :
    Fleet.Invariant fun feed _ cancelled =>
      feed.plan.IsFilledUpTo last -> feed.Tame last cancelled where
  opened client portal query options now filled :=
    { filled := filled
      requests := requests_invariant.opened client portal query options now
      flowing := flowing_invariant.opened client portal query options now
      whole := trivial
      ordered := Buffer.Config.least_le_make_greatest ..
      brimful := nofun }
  proceeds tame proceeding filled :=
    (tame_lasting last).proceeds (tame (proceeding.feeding.plan ▸ filled)) proceeding
  polls tame polling filled :=
    (tame_lasting last).polls (tame (polling.looking.plan ▸ filled)) polling
  leaves {feed now cancelled} tame filled :=
    @(tame_lasting last).leaves feed now cancelled (tame filled)
  calledOff {feed now} tame filled := @(tame_lasting last).calledOff feed now (tame filled)
  later _ tame := tame

/-! ## What becomes less -/

/-- How many queries the loop can still post, and how far it is from the next one. -/
def rank (feed : Feed) (last : UInt64) : Nat ×ₗ Nat :=
  toLex (last.toNat + 1 - (feed.plan.query.firstBlock.toNat + feed.posts.length),
    feed.stage.weight)

theorem Looking.rank (looking : feed.Looking next) (last : UInt64) :
    next.rank last = feed.rank last := by
  rw [Feed.rank, looking.plan, looking.posts, looking.stage, Feed.rank]

/-- Every step of the loop lowers the rank. -/
theorem Tame.rank_lt
    (tame : feed.Tame last cancelled)
    (proceeding : feed.Proceeding now cancelled next) :
    next.rank last < feed.rank last := by
  have nextTame := (tame_lasting last).proceeds tame proceeding
  rw [rank, rank, Prod.Lex.toLex_lt_toLex]
  rcases proceeding.working_or_post with working | ⟨tip, _, rfl⟩
  · exact .inr ⟨by rw [working.plan, working.posts], proceeding.weight_lt working.posts⟩
  · -- The query that was posted is one of those that the range has room for.
    have ascends := nextTame.requests.2.2.2.ascends nextTame.filled
    have count := Nat.le_trans ascends.count ascends.within
    rw [posts_post, List.length_append, List.length_singleton] at count
    refine .inl ?_
    rw [posts_post, List.length_append, List.length_singleton]
    change _ - (feed.plan.query.firstBlock.toNat + _) < _
    change feed.plan.query.firstBlock.toNat + _ ≤ _ at count
    omega

/-! ## What the loop waits for -/

/-- What the loop waits for has come. -/
def Ready (feed : Feed) (now : Instant) : Prop :=
  match feed.stage with
  | .finished => False
  | .held ticket _ => ticket < feed.buffer.releases
  | _ => ∀ target, feed.alarm? = some target -> target ≤ now

/-- The next part of a whole body is data. -/
theorem data_of_isWhole
    {part : Timed Item} {rest : List (Timed Item)}
    (isWhole : Reply.isWhole (part :: rest) = true) :
    ∃ chunk, part.content = .data chunk := by
  obtain ⟨delay, content⟩ := part
  cases content with
  | data chunk => exact ⟨chunk, rfl⟩
  | _ => cases isWhole

/-- When what it waits for has come, the loop can take a step. -/
theorem Ready.proceeds
    (ready : feed.Ready now)
    (whole : feed.Whole)
    (cancelled : Bool) :
    ∃ next, feed.proceed? now cancelled = some next := by
  refine Option.isSome_iff_exists.mp ?_
  cases stage : feed.stage with
  | finished => simp [Ready, stage] at ready
  | turning => simp [proceed?, stage]
  | resolved tip => cases cancelled <;> simp [proceed?, stage]
  | asking since answer =>
      simp only [Ready, stage, alarm?, Option.some.injEq, forall_eq'] at ready
      cases cancelled <;> simp [proceed?, stage, ready]
  | posting tip since answer =>
      simp only [Ready, stage, alarm?, Option.some.injEq, forall_eq'] at ready
      cases cancelled <;> simp [proceed?, stage, ready]
  | held ticket body =>
      simp only [Ready, stage] at ready
      have admits : feed.buffer.admits ticket = true := by
        simp [Buffer.admits, Nat.ne_of_gt ready]
      cases cancelled <;> simp [proceed?, stage, admits]
  | pausing target =>
      simp only [Ready, stage, alarm?, Option.some.injEq, forall_eq'] at ready
      cases cancelled <;> simp [proceed?, stage, ready]
  | reading since body =>
      simp only [Whole, stage] at whole
      cases parts : body.rest with
      | nil => cases cancelled <;> simp [proceed?, stage, read?, parts]
      | cons part rest =>
          obtain ⟨chunk, isData⟩ := data_of_isWhole (parts ▸ whole)
          obtain ⟨delay, content⟩ := part
          obtain rfl : content = .data chunk := isData
          simp only [Ready, stage, alarm?, parts, Option.some.injEq, forall_eq'] at ready
          cases cancelled <;> simp [proceed?, stage, read?, parts, ready]

/-- Readiness lasts while the loop stays where it is. -/
theorem Ready.of_stage
    {later : Instant}
    (ready : feed.Ready now)
    (stage : next.stage = feed.stage)
    (releases : feed.buffer.releases ≤ next.buffer.releases)
    (passed : now ≤ later) :
    next.Ready later := by
  have alarm : next.alarm? = feed.alarm? := by rw [alarm?, stage, alarm?]
  unfold Ready at ready ⊢
  rw [stage, alarm]
  split at ready
  · exact ready
  · exact Nat.lt_of_lt_of_le ready releases
  · exact fun target isAlarm => Nat.le_trans (ready target isAlarm) passed

/-- The loop of a feed has got on: its rank is below `bound`, or the feed has come to nothing
because its timers overflow. -/
def GotOn (feed : Feed) (last : UInt64) (bound : Nat ×ₗ Nat) : Prop :=
  feed.rank last < bound ∨ .overflow ∈ feed.yields

/-- The feed has got on, or its loop has not moved and `waits` is still true. -/
def GotOnOr (feed : Feed) (last : UInt64) (bound : Nat ×ₗ Nat) (waits : Prop) : Prop :=
  feed.GotOn last bound ∨ (feed.rank last = bound ∧ waits)

/-- A step of the loop lets the feed get on; nothing else moves the loop. -/
theorem gotOnOr_lasting
    (last : UInt64) (bound : Nat ×ₗ Nat) {waits : Feed -> Instant -> Prop}
    (lasts : ∀ {feed next : Feed} {now later : Instant}, waits feed now ->
      next.stage = feed.stage -> feed.buffer.releases ≤ next.buffer.releases -> now ≤ later ->
      waits next later) :
    Fleet.Lasting fun feed now cancelled =>
      feed.Tame last cancelled ∧ feed.GotOnOr last bound (waits feed now) where
  proceeds {feed now cancelled next} held proceeding := by
    refine ⟨(tame_lasting last).proceeds held.1 proceeding, .inl ?_⟩
    have lower := held.1.rank_lt proceeding
    rcases held.2 with (below | overflow) | ⟨same, _⟩
    · exact .inl (lt_trans lower below)
    · exact .inr (proceeding.feeding.yields ▸ overflow)
    · exact .inl (same ▸ lower)
  polls {feed now cancelled result next} held polling := by
    refine ⟨(tame_lasting last).polls held.1 polling, ?_⟩
    have looking := polling.looking
    rw [GotOnOr, GotOn, looking.rank, polling.yields, List.mem_append]
    exact held.2.imp (Or.imp id .inl) fun waiting =>
      ⟨waiting.1, lasts waiting.2 looking.stage polling.releases_le (Nat.le_refl now)⟩
  leaves {feed now cancelled} held := by
    refine ⟨@(tame_lasting last).leaves feed now cancelled held.1, ?_⟩
    refine held.2.imp id (And.imp_right fun waiting => ?_)
    exact lasts waiting rfl (Nat.le_refl feed.buffer.releases) (Nat.le_refl now)
  calledOff {feed now} held := ⟨@(tame_lasting last).calledOff feed now held.1, held.2⟩
  later {feed now cancelled} duration held := by
    refine ⟨held.1, held.2.imp id (And.imp_right fun waiting => ?_)⟩
    exact lasts waiting rfl (Nat.le_refl feed.buffer.releases) (Nat.le_add_right now duration)

end Feed

namespace Fleet

/-! ## The end of a feed -/

section fair

variable {fleet : Fleet} {tokens : Tokens} {schedule : Nat -> Action} {index count : Nat}
  {member : Member} {last : UInt64} {motive : Feed -> Instant -> Prop}

/-- From a point of a schedule on, a feed is found tame and as told at some time. -/
def Comes (fleet : Fleet) (schedule : Nat -> Action) (index : Nat) (last : UInt64) (count : Nat)
    (motive : Feed -> Instant -> Prop) : Prop :=
  ∃ later member, count ≤ later ∧
    (fleet.after schedule later).members[index]? = some member ∧
    member.feed.Tame last ((fleet.after schedule later).isCancelled member) ∧
    motive member.feed (fleet.after schedule later).now

/-- What comes behind a later point comes. -/
theorem Comes.of_le
    {later : Nat}
    (comes : fleet.Comes schedule index last later motive)
    (isLater : count ≤ later) :
    fleet.Comes schedule index last count motive := by
  obtain ⟨reached, member, isReached, found⟩ := comes
  exact ⟨reached, member, Nat.le_trans isLater isReached, found⟩

/-- The loop of a feed stands at a stage until the feed gets on. -/
theorem stands_lasting (last : UInt64) (bound : Nat ×ₗ Nat) (stage : Feed.Stage) :
    Lasting fun feed _ cancelled =>
      feed.Tame last cancelled ∧ feed.GotOnOr last bound (feed.stage = stage) :=
  Feed.gotOnOr_lasting last bound fun stands same _ _ => same.trans stands

/-- What the loop waits for stays there until the feed gets on. -/
theorem ready_lasting (last : UInt64) (bound : Nat ×ₗ Nat) :
    Lasting fun feed now cancelled =>
      feed.Tame last cancelled ∧ feed.GotOnOr last bound (feed.Ready now) :=
  Feed.gotOnOr_lasting last bound Feed.Ready.of_stage

/-- A loop that is not held back is ready when its alarm has gone off. -/
theorem ready_of_alarm
    {feed : Feed} {now : Instant}
    (unfinished : feed.stage ≠ .finished)
    (notHeld : ∀ ticket body, feed.stage ≠ .held ticket body)
    (passed : feed.alarm?.getD 0 ≤ now) :
    feed.Ready now := by
  unfold Feed.Ready
  split
  · next finished => exact unfinished finished
  · next ticket body held => exact absurd held (notHeld ticket body)
  · intro target isAlarm
    rwa [isAlarm, Option.getD_some] at passed

/-- A loop that is held back is ready when the consumer has asked, unless its timers
overflow. -/
theorem ready_of_poll
    {feed next : Feed} {now : Instant} {cancelled : Bool} {result : Option Feed.Yield}
    {ticket : Nat} {body : Feed.Reading}
    (tame : feed.Tame last cancelled)
    (held : feed.stage = .held ticket body)
    (stays : feed.consumer ≠ .gone)
    (polling : feed.Polling now result next) :
    .overflow ∈ next.yields ∨ next.Ready now := by
  have running := tame.requests.1.running (by simp [held])
  have ready : ticket < next.buffer.releases -> next.Ready now := by
    intro released
    rw [Feed.Ready, polling.looking.stage, held]
    exact released
  rcases tame.brimful ticket body held with released | ⟨rfl, ripe⟩
  · exact .inr (ready (Nat.lt_of_lt_of_le released polling.releases_le))
  · rcases polling.of_ripe ripe running (tame.flowing running) with ⟨_, overflow⟩ | released
    · exact .inl (overflow.resolve_right stays)
    · exact .inr (ready (by omega))

/-- A loop that is not held back becomes ready when time goes on. -/
theorem ready_of_passing
    (passes : ∀ count (instant : Instant),
      ∃ later, count ≤ later ∧ instant ≤ (fleet.after schedule later).now)
    (found : (fleet.after schedule count).members[index]? = some member)
    (tame : member.feed.Tame last ((fleet.after schedule count).isCancelled member))
    (unfinished : member.feed.stage ≠ .finished)
    (notHeld : ∀ ticket body, member.feed.stage ≠ .held ticket body) :
    fleet.Comes schedule index last count fun feed now =>
      feed.GotOnOr last (member.feed.rank last) (feed.Ready now) := by
  have stands := stands_lasting last (member.feed.rank last) member.feed.stage
  obtain ⟨later, isLater, passed⟩ := passes count (member.feed.alarm?.getD 0)
  obtain ⟨next, isNext, nextTame, outcome⟩ :=
    stands.after found ⟨tame, .inr ⟨rfl, rfl⟩⟩ isLater
  refine ⟨later, next, isLater, isNext, nextTame, outcome.imp id (And.imp_right ?_)⟩
  intro same
  have alarm : next.feed.alarm? = member.feed.alarm? := by
    rw [Feed.alarm?, same, Feed.alarm?]
  exact ready_of_alarm (same ▸ unfinished) (same ▸ notHeld) (alarm ▸ passed)

/-- A loop that is held back becomes ready when the consumer asks. -/
theorem ready_of_asking
    {ticket : Nat} {body : Feed.Reading}
    (isPoll : schedule count = .poll index)
    (found : (fleet.after schedule count).members[index]? = some member)
    (tame : member.feed.Tame last ((fleet.after schedule count).isCancelled member))
    (held : member.feed.stage = .held ticket body)
    (stays : member.feed.consumer ≠ .gone) :
    fleet.Comes schedule index last count fun feed now =>
      feed.GotOnOr last (member.feed.rank last) (feed.Ready now) := by
  have polling := Feed.polling_poll member.feed (fleet.after schedule count).now
  refine ⟨count + 1, { member with feed := (member.feed.poll (fleet.after schedule count).now).2 },
    Nat.le_succ count, ?_, ?_, ?_⟩
  · rw [after_succ, isPoll, act_poll found, getElem?_update, if_pos rfl, found, Option.map_some]
  · rw [after_succ, isPoll, act_poll found]
    exact (Feed.tame_lasting last).polls tame polling
  · rw [after_succ, isPoll, act_poll found]
    rcases ready_of_poll tame held stays polling with overflow | ready
    · exact .inl (.inr overflow)
    · exact .inr ⟨polling.looking.rank last, ready⟩

/-- On a fair schedule, a feed whose loop has not ended gets on, or what it waits for comes. -/
theorem ready_of_fair
    (fair : (create tokens).IsFair schedule index)
    (found : ((create tokens).after schedule count).members[index]? = some member)
    (tame : member.feed.Tame last (((create tokens).after schedule count).isCancelled member))
    (unfinished : member.feed.stage ≠ .finished) :
    (create tokens).Comes schedule index last count fun feed now =>
      feed.GotOnOr last (member.feed.rank last) (feed.Ready now) := by
  -- Time is enough for every stage but one: a loop that is held back needs a release, and
  -- only the consumer brings it.
  by_cases notHeld : ∀ ticket body, member.feed.stage ≠ .held ticket body
  · exact ready_of_passing fair.passes found tame unfinished notHeld
  · simp only [ne_eq, not_forall, not_not] at notHeld
    obtain ⟨ticket, body, held⟩ := notHeld
    obtain ⟨asked, isLater, isPoll⟩ := fair.polls count
    obtain ⟨asking, isAsking, askingTame, still⟩ :=
      (stands_lasting last (member.feed.rank last) member.feed.stage).after found
        ⟨tame, .inr ⟨rfl, rfl⟩⟩ isLater
    rcases still with gotOn | ⟨same, stage⟩
    · exact ⟨asked, asking, isLater, isAsking, askingTame, .inl gotOn⟩
    · have stays := consumer_stays fair.stays isAsking
      have ready := ready_of_asking isPoll isAsking askingTame (stage.trans held) stays
      rw [same] at ready
      exact ready.of_le isLater

/-- On a fair schedule, a feed whose loop has not ended gets on. -/
theorem gotOn_of_fair
    (fair : (create tokens).IsFair schedule index)
    (found : ((create tokens).after schedule count).members[index]? = some member)
    (tame : member.feed.Tame last (((create tokens).after schedule count).isCancelled member))
    (unfinished : member.feed.stage ≠ .finished) :
    (create tokens).Comes schedule index last count fun feed _ =>
      feed.GotOn last (member.feed.rank last) := by
  obtain ⟨ready, waiting, isReady, isWaiting, holds⟩ :=
    ready_of_fair fair found tame unfinished
  obtain ⟨stepped, isLater, isProceed⟩ := fair.proceeds ready
  obtain ⟨stepping, isStepping, steppingTame, still⟩ :=
    (ready_lasting last _).after isWaiting holds isLater
  have behind := Nat.le_trans isReady isLater
  rcases still with gotOn | ⟨same, stillReady⟩
  · exact ⟨stepped, stepping, behind, isStepping, steppingTame, gotOn⟩
  · obtain ⟨next, proceeds⟩ := stillReady.proceeds steppingTame.whole
      (((create tokens).after schedule stepped).isCancelled stepping)
    have proceeding := Feed.proceeding_of_proceed proceeds
    refine ⟨stepped + 1, { stepping with feed := next }, Nat.le_succ_of_le behind, ?_, ?_, ?_⟩
    · rw [after_succ, isProceed, act_proceed isStepping proceeds, getElem?_update, if_pos rfl,
        isStepping, Option.map_some]
    · rw [after_succ, isProceed, act_proceed isStepping proceeds]
      exact (Feed.tame_lasting last).proceeds steppingTame proceeding
    · exact .inl (same ▸ steppingTame.rank_lt proceeding)

/-- On a fair schedule, a feed whose portal fills its query comes to its end, unless its timers
overflow. -/
theorem finishes_of_fair
    (fair : (create tokens).IsFair schedule index)
    (found : ((create tokens).after schedule count).members[index]? = some member)
    (tame : member.feed.Tame last (((create tokens).after schedule count).isCancelled member)) :
    ∃ stop later, count ≤ stop ∧
      ((create tokens).after schedule stop).members[index]? = some later ∧
      (later.feed.stage = .finished ∨ .overflow ∈ later.feed.yields) := by
  -- By induction on the rank, which falls each time the feed gets on.
  generalize isRank : member.feed.rank last = rank
  induction rank using WellFoundedLT.induction generalizing count member with
  | ind rank inductionHypothesis =>
      by_cases finished : member.feed.stage = .finished
      · exact ⟨count, member, Nat.le_refl count, found, .inl finished⟩
      · obtain ⟨later, next, isLater, isNext, nextTame, lower | overflow⟩ :=
          gotOn_of_fair fair found tame finished
        · obtain ⟨stop, final, isStop, isFinal, outcome⟩ :=
            inductionHypothesis _ (isRank ▸ lower) isNext nextTame rfl
          exact ⟨stop, final, Nat.le_trans isLater isStop, isFinal, outcome⟩
        · exact ⟨later, next, isLater, isNext, .inr overflow⟩

end fair

/-- A portal fills a query that ends below the greatest number. Then a feed posts no more
queries than there are blocks in the range, no two of them begin at the same block, and the
consumer gets no block twice. On every fair schedule the loop comes to its end, unless one of
the consumer's timers overshoots. -/
theorem filled_feeds_finish
    {tokens : Tokens} {schedule : Nat -> Action} {index start : Nat} {member : Member}
    {last : UInt64}
    (found : ((create tokens).after schedule start).members[index]? = some member)
    (filled : member.feed.plan.IsFilledUpTo last) :
    member.feed.posts.length ≤ last.toNat - member.feed.plan.query.firstBlock.toNat + 1 ∧
      (member.feed.posts.Pairwise fun earlier later => earlier.firstBlock < later.firstBlock) ∧
      (member.feed.delivered.Pairwise fun earlier later => earlier.number < later.number) ∧
      ((create tokens).IsFair schedule index ->
        ∃ stop later, start ≤ stop ∧
          ((create tokens).after schedule stop).members[index]? = some later ∧
          (later.feed.stage = .finished ∨
            later.feed.Overran ((create tokens).after schedule stop).now)) := by
  have tame := (Feed.tame_invariant last).run tokens ((List.range start).map schedule) member
    (List.mem_of_getElem? found) filled
  have ascends := tame.requests.2.2.2.ascends filled
  refine ⟨?_, ascends.queries, ?_, fun fair => ?_⟩
  · have count := Nat.le_trans ascends.count ascends.within
    omega
  · exact ascends.blocks.sublist tame.requests.1.delivered_isPrefix.sublist
  · obtain ⟨stop, later, isStop, isLater, outcome⟩ := finishes_of_fair fair found tame
    exact ⟨stop, later, isStop, isLater,
      outcome.imp_right (overran_of_overflow (List.mem_of_getElem? isLater))⟩

/-- A feed of two blocks that the portal hands out one by one comes to its end. -/
theorem filled_feeds_finish_behind_two_blocks :
    let line := fun number => Bytes.ofString
      (if number = (1 : UInt64) then "\x7b\"header\":\x7b\"number\":1\x7d\x7d"
        else "\x7b\"header\":\x7b\"number\":2\x7d\x7d")
    let portal : Portal :=
      { height := fun _ => ⟨0, .ok "2"⟩
        reply := fun _ query => ⟨0, .ok ⟨200, some [⟨0, .data (line query.firstBlock)⟩]⟩⟩ }
    let query := ((Query.ofSelection (.empty .evm)).startingAt 1).endingAt 2
    let schedule := inTurn (.opened ⟨"", "", {}⟩ portal query {}) 0
    (create .empty).IsFair schedule 0 ∧
      ∃ member, ((create .empty).after schedule 1).members[0]? = some member ∧
        member.feed.plan.IsFilledUpTo 2 ∧
        ∃ stop later, ((create .empty).after schedule stop).members[0]? = some later ∧
          (later.feed.stage = .finished ∨
            later.feed.Overran ((create .empty).after schedule stop).now) := by
  intro line portal query schedule
  have fair : (create .empty).IsFair schedule 0 := fair_inTurn _ _ 0 nofun
  have single : ∀ number : UInt64, number = 1 ∨ number = 2 ->
      (Answer.blocks? (.ok ⟨200, some [⟨0, .data (line number)⟩]⟩)).map
        (List.map Block.number) = some [number] := by
    rintro number (rfl | rfl)
    · decide +kernel
    · decide +kernel
  have fills : portal.Fills query := by
    refine Portal.fills_of_single fun count cursor covers => single cursor ?_
    obtain ⟨lower, upper⟩ := (Bool.and_eq_true _ _).mp covers
    have lower := UInt64.le_iff_toNat_le.mp (of_decide_eq_true lower)
    have upper := UInt64.le_iff_toNat_le.mp (of_decide_eq_true upper)
    change 1 ≤ cursor.toNat at lower
    change cursor.toNat ≤ 2 at upper
    rw [← UInt64.toNat_inj, ← UInt64.toNat_inj]
    change cursor.toNat = 1 ∨ cursor.toNat = 2
    omega
  have filled : (Client.plan ⟨"", "", {}⟩ portal query {}).IsFilledUpTo 2 :=
    ⟨fills, rfl, by decide, by decide⟩
  have found : ((create .empty).after schedule 1).members[0]? =
      some ⟨Client.feed ⟨"", "", {}⟩ portal query {}, _, _⟩ := rfl
  obtain ⟨_, _, _, ends⟩ := filled_feeds_finish found filled
  obtain ⟨stop, later, _, isLater, outcome⟩ := ends fair
  exact ⟨fair, _, found, filled, stop, later, isLater, outcome⟩

/-- A portal that has nothing but the block of the greatest number fills the query for that
block. The feed asks for it again behind the pause at the head, and the consumer gets it
twice. -/
theorem greatest_block_is_delivered_twice :
    let last : UInt64 := 18446744073709551615
    let line := Bytes.ofString "\x7b\"header\":\x7b\"number\":18446744073709551615\x7d\x7d"
    let portal : Portal :=
      { height := fun _ => ⟨0, .ok "18446744073709551615"⟩
        reply := fun _ _ => ⟨0, .ok ⟨200, some [⟨0, .data line⟩]⟩⟩ }
    let query := ((Query.ofSelection (.empty .evm)).startingAt last).endingAt last
    let round := List.replicate 6 (Action.proceed 0) ++ [.poll 0]
    let fleet := (create .empty).run
      ([.opened ⟨"", "", {}⟩ portal query { minBytes := 1 }] ++ round ++
        [.proceed 0, .pass (Duration.ofSeconds 5)] ++ round)
    portal.Fills query ∧
      fleet.members.map (fun member =>
        (member.feed.posts.map Query.firstBlock, member.feed.delivered.map Block.number)) =
          [([last, last], [last, last])] := by
  intro last line portal query round fleet
  have single : (Answer.blocks? (.ok ⟨200, some [⟨0, .data line⟩]⟩)).map
      (List.map Block.number) = some [last] := by
    decide +kernel
  constructor
  · refine Portal.fills_of_single fun count cursor covers => ?_
    obtain ⟨lower, upper⟩ := (Bool.and_eq_true _ _).mp covers
    obtain rfl : last = cursor :=
      UInt64.le_antisymm (of_decide_eq_true lower) (of_decide_eq_true upper)
    exact single
  · decide +kernel

end Fleet
end BlockFeed
