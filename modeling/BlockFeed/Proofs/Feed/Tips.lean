import BlockFeed.Proofs.Feed.Cancellation
import BlockFeed.Proofs.Feed.Delivery
import Mathlib.Data.List.Induction

/-!
# The tips that batches carry

Before each query the loop resolves a tip, from the height that it has asked for or
from its cache. The tip reaches the consumer apart from the blocks: it is made known
when a body has been got, and it is looked up when a batch is taken. So a batch carries
the tip of the latest request for which a body has been got, and this is the request
that brought the last block of the batch unless another body has been got since.
-/

namespace BlockFeed

/-- Whether a body may be read off an answer. -/
def Answer.isAccepted : Answer Reply -> Bool
  | .ok reply => reply.status == 200
  | _ => false

namespace Answer

theorem isAccepted_of_blocks {answer : Answer Reply} (someBlocks : answer.blocks ≠ []) :
    answer.isAccepted = true := by
  cases answer with
  | ok reply =>
      cases status : reply.status == 200 with
      | true => exact status
      | false => exact absurd (blocks_of_status status) someBlocks
  | failed fault => exact absurd rfl someBlocks
  | crash => exact absurd rfl someBlocks

theorem isAccepted_of_outcome
    {answer : Answer Reply} {fault : Fault}
    (failed : answer.outcome = .error fault) :
    answer.isAccepted = false := by
  cases answer with
  | ok reply => cases failed
  | failed reported => rfl
  | crash => rfl

end Answer

/-! ## Parts of what many things bring -/

section parts

variable {bring : α -> List β}

/-- The end of a part of what some things bring, one after the other, is brought by one
of them. -/
theorem exists_bringer
    {things : List α} {part : List β}
    (isInitial : part <+: things.flatMap bring)
    (someItems : part ≠ []) :
    ∃ place thing piece, things[place]? = some thing ∧ piece ≠ [] ∧ piece <+: bring thing ∧
      part = (things.take place).flatMap bring ++ piece := by
  induction things generalizing part with
  | nil => exact absurd (List.prefix_nil.mp isInitial) someItems
  | cons first rest inductionHypothesis =>
      obtain ⟨later, whole⟩ := isInitial
      rw [List.flatMap_cons] at whole
      rcases List.append_eq_append_iff.mp whole with
        ⟨missing, isFirst, _⟩ | ⟨beyond, isPart, isRest⟩
      · exact ⟨0, first, part, rfl, someItems, ⟨missing, isFirst.symm⟩, rfl⟩
      · by_cases nothing : beyond = []
        · have isFirst : part = bring first := by rw [isPart, nothing, List.append_nil]
          exact ⟨0, first, part, rfl, someItems, isFirst ▸ List.prefix_rfl, rfl⟩
        · obtain ⟨place, thing, piece, found, somePiece, isPiece, split⟩ :=
            inductionHypothesis ⟨later, isRest.symm⟩ nothing
          refine ⟨place + 1, thing, piece, found, somePiece, isPiece, ?_⟩
          rw [isPart, split, List.take_succ_cons, List.flatMap_cons, List.append_assoc]

/-- Of the things that satisfy a test, one is the last. -/
theorem exists_latest
    (test : α -> Bool) {things : List α} {place : Nat} {thing : α}
    (found : things[place]? = some thing)
    (passes : test thing = true) :
    ∃ latest last, place ≤ latest ∧ things[latest]? = some last ∧ test last = true ∧
      (things.filter test).getLast? = some last ∧
      ∀ later other, latest < later -> things[later]? = some other -> test other = false := by
  induction things using List.reverseRecOn with
  | nil => cases found
  | append_singleton front back inductionHypothesis =>
      cases isLast : test back with
      | true =>
          obtain ⟨bound, _⟩ := List.getElem?_eq_some_iff.mp found
          refine ⟨front.length, back, ?_, List.getElem?_concat_length, isLast, ?_, ?_⟩
          · rw [List.length_append, List.length_singleton] at bound
            exact Nat.le_of_lt_succ bound
          · simp [List.filter_append, isLast]
          · intro later other behind isOther
            obtain ⟨bound, _⟩ := List.getElem?_eq_some_iff.mp isOther
            rw [List.length_append, List.length_singleton] at bound
            omega
      | false =>
          have inFront : front[place]? = some thing := by
            by_cases bound : place < front.length
            · rwa [List.getElem?_append_left bound] at found
            · rw [List.getElem?_append_right (Nat.le_of_not_lt bound)] at found
              have isThing := List.mem_singleton.mp (List.mem_of_getElem? found)
              rw [isThing, isLast] at passes
              cases passes
          obtain ⟨latest, last, notEarlier, isLatest, passesToo, isFiltered, none⟩ :=
            inductionHypothesis inFront
          obtain ⟨bound, _⟩ := List.getElem?_eq_some_iff.mp isLatest
          refine ⟨latest, last, notEarlier, ?_, passesToo, ?_, ?_⟩
          · rwa [List.getElem?_append_left bound]
          · simpa [List.filter_append, isLast] using isFiltered
          · intro later other behind isOther
            by_cases inside : later < front.length
            · rw [List.getElem?_append_left inside] at isOther
              exact none later other behind isOther
            · rw [List.getElem?_append_right (Nat.le_of_not_lt inside)] at isOther
              rw [List.mem_singleton.mp (List.mem_of_getElem? isOther)]
              exact isLast

end parts

namespace Feed

/-! ## The tips of the requests -/

/-- The tip that the loop knows when it has asked for the height so many times. -/
def Plan.tipAfter (plan : Plan) : Nat -> Option BlockRef
  | 0 => none
  | before + 1 =>
      ((plan.portal.height before).content.outcome.bind Height.parse).toOption.map (⟨·, ""⟩)

/-- What the log tells about the tips: how often the height has been asked for, and the
tips that were known when the queries were posted. -/
structure Survey where
  asked : Nat
  tips : List (Option BlockRef)

/-- The survey behind another event. -/
def Survey.note (plan : Plan) (survey : Survey) : Event -> Survey
  | .asked _ => { survey with asked := survey.asked + 1 }
  | .posted _ _ => { survey with tips := survey.tips ++ [plan.tipAfter survey.asked] }
  | _ => survey

/-- What the log of a feed tells about the tips. -/
def survey (feed : Feed) : Survey :=
  feed.log.foldl (fun survey entry => survey.note feed.plan entry.event) ⟨0, []⟩

/-- A query that was posted: what the portal answers to it, and the tip that the loop had
resolved for it. -/
structure Request where
  answer : Answer Reply
  tip : Option BlockRef

/-- The queries that were posted, the first one first. -/
def requests (feed : Feed) : List Request :=
  List.zipWith Request.mk feed.answers feed.survey.tips

/-- The tip of the latest of some requests for which a body was got. -/
def latestTip (requests : List Request) : Option BlockRef :=
  (requests.filter (·.answer.isAccepted)).getLast?.bind (·.tip)

theorem latestTip_append_accepted
    (requests : List Request)
    {request : Request}
    (accepted : request.answer.isAccepted = true) :
    latestTip (requests ++ [request]) = request.tip := by
  simp [latestTip, List.filter_append, accepted]

theorem latestTip_append_other
    (requests : List Request)
    {request : Request}
    (notAccepted : request.answer.isAccepted = false) :
    latestTip (requests ++ [request]) = latestTip requests := by
  simp [latestTip, List.filter_append, notAccepted]

variable {feed next : Feed} {now : Instant} {cancelled : Bool}

/-- Whatever asks for nothing leaves the survey as it is. -/
theorem Notes.survey (notes : feed.Notes next now) (plan : next.plan = feed.plan) :
    next.survey = feed.survey := by
  obtain ⟨events, log, quiet⟩ := notes
  rw [Feed.survey, log, List.foldl_append, plan, ← Feed.survey]
  generalize feed.survey = survey
  clear log
  induction events with
  | nil => rfl
  | cons event rest inductionHypothesis =>
      have noRequest := (quiet event (List.mem_cons_self ..)).1
      have same : survey.note feed.plan event = survey := by
        cases event <;> first | rfl | cases noRequest
      rw [List.map_cons, List.foldl_cons, same]
      exact inductionHypothesis fun later mem => quiet later (List.mem_cons_of_mem _ mem)

/-- What the consumer gets leaves the survey as it is. -/
theorem Polling.survey {result : Option Yield} (polling : feed.Polling now result next) :
    next.survey = feed.survey := by
  rw [Feed.survey, polling.log, List.foldl_append, polling.looking.plan]
  cases result <;> rfl

theorem survey_record (feed : Feed) (now : Instant) (event : Event) :
    (feed.record now event).survey = feed.survey.note feed.plan event := by
  simp [Feed.survey, record]

/-! ## What the loop learns -/

/-- What the loop knows about the height and the tip. -/
structure Knowledge where
  cache : Height.Cache
  asked : Nat
  tip : Option BlockRef

/-- What the loop of a feed knows about the height and the tip. -/
def knowledge (feed : Feed) : Knowledge := ⟨feed.cache, feed.asked, feed.tip⟩

/-- Whether the loop is on its way to an answer to a query. -/
def Stage.isRequesting : Stage -> Bool
  | .asking _ _ => true
  | .resolved _ => true
  | .posting _ _ _ => true
  | _ => false

theorem Stage.IsBehindBody.isRequesting {stage : Stage} (behind : stage.IsBehindBody) :
    stage.isRequesting = false := by
  cases stage <;> first | rfl | exact behind.elim

/-- The loop has learned nothing, has posted nothing, and is not on its way to an
answer. -/
structure Steady (feed next : Feed) : Prop where
  plan : next.plan = feed.plan
  knowledge : next.knowledge = feed.knowledge
  survey : next.survey = feed.survey
  answers : next.answers = feed.answers
  stage : next.stage.isRequesting = false

/-- What the loop makes of what it knows. -/
inductive Learning (feed : Feed) (now : Instant) : Feed -> Prop
  | asked :
      feed.stage = .turning ->
      Learning feed now (feed.askHeight now false)
  | recalled (height : UInt64) :
      feed.stage = .turning ->
      feed.cache.fresh? now = some height ->
      Learning feed now { feed with stage := .resolved ⟨height, ""⟩ }
  | learned (since : Instant) (answer : Timed (Answer String)) (height : UInt64) :
      feed.stage = .asking since answer ->
      answer.content.outcome.bind Height.parse = .ok height ->
      Learning feed now
        { feed with
          cache := feed.cache.store now height
          stage := .resolved ⟨height, ""⟩ }
  | posted (tip : BlockRef) :
      feed.stage = .resolved tip ->
      Learning feed now (feed.post now false tip)
  /-- A body has been got. -/
  | accepted (tip : BlockRef) (since : Instant) (answer : Timed (Answer Reply)) (next : Feed) :
      feed.stage = .posting tip since answer ->
      answer.content.isAccepted = true ->
      Steady { feed with tip := some tip } next ->
      Learning feed now next
  /-- No body has been got. -/
  | declined (tip : BlockRef) (since : Instant) (answer : Timed (Answer Reply)) (next : Feed) :
      feed.stage = .posting tip since answer ->
      answer.content.isAccepted = false ->
      Steady feed next ->
      Learning feed now next
  /-- The loop has ended, wherever it was. -/
  | ended (next : Feed) :
      next.stage = .finished ->
      next.gathered = feed.gathered ->
      Steady feed next ->
      Learning feed now next
  | rested (next : Feed) :
      feed.stage.isRequesting = false ->
      Steady feed next ->
      Learning feed now next

section knowledge

/-- The consumer learns nothing for the loop. -/
theorem Polling.knowledge {result : Option Yield} (polling : feed.Polling now result next) :
    next.knowledge = feed.knowledge := by
  cases polling <;> rfl

@[simp] theorem knowledge_decline (feed : Feed) (now : Instant) (reply : Reply) :
    (feed.decline now reply).knowledge = feed.knowledge := by
  unfold decline
  split <;> rfl

@[simp] theorem knowledge_callOff (feed : Feed) (now : Instant) :
    (feed.callOff now).knowledge = feed.knowledge := by
  unfold callOff
  split <;> rfl

@[simp] theorem knowledge_atHead (feed : Feed) (now : Instant) :
    (feed.atHead now).knowledge = feed.knowledge := by
  unfold atHead
  split <;> rfl

@[simp] theorem knowledge_endReply (feed : Feed) (now : Instant) (origin cursor : UInt64) :
    (feed.endReply now origin cursor).knowledge = feed.knowledge := by
  unfold endReply
  split
  · exact knowledge_atHead _ now
  · rfl

@[simp] theorem knowledge_continueReading (feed : Feed) (now : Instant) (reading : Reading) :
    (feed.continueReading now reading).knowledge = feed.knowledge := by
  unfold continueReading
  split
  · exact feed.knowledge_endReply now _ _
  · rfl

theorem isRequesting_continueReading (feed : Feed) (now : Instant) (reading : Reading) :
    (feed.continueReading now reading).stage.isRequesting = false := by
  rcases feed.stage_continueReading now reading with ⟨_, behind⟩ | ⟨_, reads⟩
  · exact behind.isRequesting
  · rw [reads]
    rfl

theorem Handing.knowledge
    {reading : Reading} {lines : List Bytes}
    (handing : feed.Handing now reading lines next) :
    next.knowledge = feed.knowledge := by
  cases handing with
  | spoiled fault => split <;> rfl
  | blank => exact feed.knowledge_continueReading now reading
  | added => exact knowledge_continueReading _ now _
  | filled => rfl
  | discarded => exact feed.knowledge_continueReading now _

theorem Handing.isRequesting
    {reading : Reading} {lines : List Bytes}
    (handing : feed.Handing now reading lines next) :
    next.stage.isRequesting = false := by
  rcases handing.stage with ⟨_, behind⟩ | finished | ⟨cursor, ⟨_, reads⟩ | held⟩
  · exact behind.isRequesting
  · rw [finished]
    rfl
  · rw [reads]
    rfl
  · rw [held]
    rfl

end knowledge

/-- Every step of the loop is one of these. -/
theorem Proceeding.learning (proceeding : feed.Proceeding now cancelled next) :
    feed.Learning now next := by
  rcases proceeding.notes_or_request with notes | ⟨turning, _, rfl⟩ | ⟨tip, resolved, rfl⟩
  · rcases proceeding.working_or_post with working | ⟨tip, resolved, rfl⟩
    · have survey := notes.survey working.plan
      have steady (knowledge : next.knowledge = feed.knowledge)
          (stage : next.stage.isRequesting = false) : feed.Steady next :=
        ⟨working.plan, knowledge, survey, working.answers, stage⟩
      cases proceeding with
      | overreached => exact .ended _ rfl feed.agrees_finish.gathered (steady rfl rfl)
      | calledOff =>
          have stage := feed.stage_callOff now
          exact .ended _ stage (feed.agrees_callOff now).gathered
            (steady (feed.knowledge_callOff now) (by rw [stage]; rfl))
      | recalled height turning _ _ fresh => exact .recalled height turning fresh
      | asked turning => exact .asked turning
      | learned since answer height asking _ _ parsed =>
          exact .learned since answer height asking parsed
      | unlearned _ _ fault =>
          exact .ended _ rfl (feed.agrees_fail fault).gathered (steady rfl rfl)
      | posted tip resolved => exact .posted tip resolved
      | opened tip since answer reply parts posting _ _ content status =>
          have accepted : answer.content.isAccepted = true := by rw [content]; exact status
          exact .accepted tip since answer _ posting accepted
            ⟨rfl, rfl, survey, working.answers, rfl⟩
      | bodiless tip since answer reply posting _ _ content status =>
          have accepted : answer.content.isAccepted = true := by rw [content]; exact status
          exact .accepted tip since answer _ posting accepted
            ⟨working.plan, knowledge_endReply _ now _ _, survey, working.answers,
              (isBehindBody_endReply _ now _ _).isRequesting⟩
      | nothing tip since answer reply posting _ _ content status =>
          have declined : answer.content.isAccepted = false := by rw [content]; exact status
          refine .declined tip since answer _ posting declined (steady ?_ ?_)
          · rw [knowledge_atHead, knowledge_decline]
          · exact (isBehindBody_atHead _ now).isRequesting
      | refused tip since answer reply posting _ _ content status =>
          have declined : answer.content.isAccepted = false := by rw [content]; exact status
          exact .declined tip since answer _ posting declined
            (steady (feed.knowledge_decline now reply) rfl)
      | unanswered tip since answer fault posting _ _ failed =>
          exact .declined tip since answer _ posting (Answer.isAccepted_of_outcome failed)
            (steady rfl rfl)
      | exhausted _ _ _ stage _ _ handing =>
          exact .rested _ (by rw [stage]; rfl) (steady handing.knowledge handing.isRequesting)
      | received _ _ _ _ _ _ stage _ _ _ handing =>
          exact .rested _ (by rw [stage]; rfl) (steady handing.knowledge handing.isRequesting)
      | broke _ _ _ _ _ stage => exact .rested _ (by rw [stage]; rfl) (steady rfl rfl)
      | crashed _ _ _ _ stage => exact .rested _ (by rw [stage]; rfl) (steady rfl rfl)
      | admitted _ reading held =>
          exact .rested _ (by rw [held]; rfl)
            (steady (feed.knowledge_continueReading now reading)
              (feed.isRequesting_continueReading now reading))
      | resumed _ pausing => exact .rested _ (by rw [pausing]; rfl) (steady rfl rfl)
    · exact .posted tip resolved
  · exact .asked turning
  · exact .posted tip resolved

/-! ## What the loop knows is so -/

/-- The height in the cache is the one that was asked for last. -/
def Recalls (feed : Feed) : Prop :=
  ∀ fetched height, feed.cache.last = some (fetched, height) ->
    feed.plan.tipAfter feed.asked = some ⟨height, ""⟩

/-- What the loop has at hand belongs to its latest request. -/
def Prepared (feed : Feed) : Prop :=
  match feed.stage with
  | .finished => True
  | .asking _ answer =>
      ∃ before, feed.asked = before + 1 ∧ answer = feed.plan.portal.height before
  | .resolved tip => feed.plan.tipAfter feed.asked = some tip ∧ feed.Recalls
  | .posting tip _ answer =>
      feed.requests.getLast? = some ⟨answer.content, some tip⟩ ∧ feed.Recalls
  | _ => feed.Recalls

/-- The loop has resolved a tip for each of its queries. -/
structure Apprised (feed : Feed) : Prop where
  asked : feed.survey.asked = feed.asked
  length : feed.survey.tips.length = feed.answers.length
  known : ∀ request ∈ feed.requests, request.tip.isSome = true
  prepared : feed.Prepared

theorem Recalls.of_knowledge
    (recalls : feed.Recalls)
    (plan : next.plan = feed.plan)
    (knowledge : next.knowledge = feed.knowledge) :
    next.Recalls := by
  have cache : next.cache = feed.cache := congrArg Knowledge.cache knowledge
  have asked : next.asked = feed.asked := congrArg Knowledge.asked knowledge
  intro fetched height isLast
  rw [cache] at isLast
  rw [plan, asked]
  exact recalls fetched height isLast

namespace Prepared

theorem of_resting (resting : feed.stage.isRequesting = false) (recalls : feed.Recalls) :
    feed.Prepared := by
  cases stage : feed.stage <;> simp_all [Prepared, Stage.isRequesting]

theorem of_finished (finished : feed.stage = .finished) : feed.Prepared := by
  simp [Prepared, finished]

theorem recalls
    (prepared : feed.Prepared)
    (resting : feed.stage.isRequesting = false)
    (unfinished : feed.stage ≠ .finished) :
    feed.Recalls := by
  cases stage : feed.stage <;> simp_all [Prepared, Stage.isRequesting]

end Prepared

namespace Steady

theorem requests (steady : feed.Steady next) : next.requests = feed.requests := by
  rw [Feed.requests, steady.answers, steady.survey, Feed.requests]

theorem tip (steady : feed.Steady next) : next.tip = feed.tip :=
  congrArg Knowledge.tip steady.knowledge

end Steady

/-- Asking for the height posts nothing. -/
theorem answers_askHeight (feed : Feed) (now : Instant) :
    (feed.askHeight now false).answers = feed.answers :=
  (feed.working_record now (.asked false) rfl rfl).answers

theorem survey_askHeight (feed : Feed) (now : Instant) :
    (feed.askHeight now false).survey =
      { feed.survey with asked := feed.survey.asked + 1 } :=
  feed.survey_record now (.asked false)

theorem requests_askHeight (feed : Feed) (now : Instant) :
    (feed.askHeight now false).requests = feed.requests := by
  rw [requests, answers_askHeight, survey_askHeight, requests]

namespace Apprised

/-- What teaches the loop nothing keeps what it knows. -/
theorem rest
    (apprised : feed.Apprised)
    (steady : feed.Steady next)
    (prepared : next.Prepared) :
    next.Apprised where
  asked := by
    rw [steady.survey, apprised.asked]
    exact (congrArg Knowledge.asked steady.knowledge).symm
  length := by rw [steady.survey, steady.answers, apprised.length]
  known := by rw [steady.requests]; exact apprised.known
  prepared := prepared

/-- A query is posted for the tip that has been resolved. -/
theorem requests_post
    (apprised : feed.Apprised)
    (conserves : feed.Conserves cancelled)
    {tip : BlockRef}
    (resolved : feed.stage = .resolved tip)
    (now : Instant) :
    (feed.post now false tip).requests =
      feed.requests ++
        [⟨(feed.plan.portal.reply feed.posted
          (feed.plan.query.startingAt feed.cursor)).content, some tip⟩] := by
  have prepared := apprised.prepared
  simp only [Conserves, resolved] at conserves
  simp only [Prepared, resolved] at prepared
  have answers := (conserves.1.produced_post now tip).1
  have tips : (feed.post now false tip).survey.tips = feed.survey.tips ++ [some tip] := by
    rw [← prepared.1, ← apprised.asked]
    exact congrArg Survey.tips (feed.survey_record now (.posted false _))
  rw [requests, answers, tips, List.zipWith_append apprised.length.symm]
  rfl

/-- Every step of the loop keeps what it knows. -/
theorem proceed
    (apprised : feed.Apprised)
    (conserves : feed.Conserves cancelled)
    (proceeding : feed.Proceeding now cancelled next) :
    next.Apprised := by
  have prepared := apprised.prepared
  cases proceeding.learning with
  | asked turning =>
      refine ⟨?_, ?_, ?_, ⟨feed.asked, rfl, rfl⟩⟩
      · rw [survey_askHeight, apprised.asked]
        rfl
      · rw [survey_askHeight, answers_askHeight]
        exact apprised.length
      · rw [requests_askHeight]
        exact apprised.known
  | recalled height turning fresh =>
      simp only [Prepared, turning] at prepared
      refine ⟨apprised.asked, apprised.length, apprised.known, ?_, prepared⟩
      unfold Height.Cache.fresh? at fresh
      split at fresh
      · next fetched recalled isLast =>
          split at fresh
          · rw [← Option.some.inj fresh]
            exact prepared fetched recalled isLast
          · cases fresh
      · cases fresh
  | learned since answer height asking parsed =>
      simp only [Prepared, asking] at prepared
      obtain ⟨before, asked, rfl⟩ := prepared
      have known : feed.plan.tipAfter feed.asked = some ⟨height, ""⟩ := by
        rw [asked, Plan.tipAfter, parsed]
        rfl
      refine ⟨apprised.asked, apprised.length, apprised.known, known, ?_⟩
      intro fetched stored isLast
      obtain ⟨_, rfl⟩ := Prod.mk.inj (Option.some.inj isLast)
      exact known
  | posted tip resolved =>
      have requests := apprised.requests_post conserves resolved now
      have survey : (feed.post now false tip).survey =
          feed.survey.note feed.plan (.posted false _) :=
        feed.survey_record now (.posted false _)
      simp only [Prepared, resolved] at prepared
      refine ⟨?_, ?_, ?_, ?_, prepared.2⟩
      · rw [survey]
        exact apprised.asked
      · simp only [Conserves, resolved] at conserves
        rw [survey, (conserves.1.produced_post now tip).1]
        simp [Survey.note, apprised.length]
      · rw [requests]
        intro request mem
        rcases List.mem_append.mp mem with isEarlier | isThis
        · exact apprised.known request isEarlier
        · rw [List.mem_singleton.mp isThis]
          rfl
      · rw [requests, List.getLast?_concat]
  | accepted tip since answer next posting accepted steady =>
      have informed : Apprised { feed with tip := some tip } :=
        ⟨apprised.asked, apprised.length, apprised.known, prepared⟩
      simp only [Prepared, posting] at prepared
      have recalls : Recalls { feed with tip := some tip } := prepared.2
      exact informed.rest steady
        (.of_resting steady.stage (recalls.of_knowledge steady.plan steady.knowledge))
  | declined tip since answer next posting declined steady =>
      simp only [Prepared, posting] at prepared
      exact apprised.rest steady
        (.of_resting steady.stage (prepared.2.of_knowledge steady.plan steady.knowledge))
  | ended next finished gathered steady => exact apprised.rest steady (.of_finished finished)
  | rested next resting steady =>
      have recalls := prepared.recalls resting proceeding.unfinished
      exact apprised.rest steady
        (.of_resting steady.stage (recalls.of_knowledge steady.plan steady.knowledge))

end Apprised

/-- The answers of the requests are those to the queries that were posted. -/
theorem Apprised.map_answer (apprised : feed.Apprised) :
    feed.requests.map Request.answer = feed.answers := by
  rw [requests, List.map_zipWith]
  apply List.ext_getElem
  · rw [List.length_zipWith, apprised.length, Nat.min_self]
  · intro place _ _
    rw [List.getElem_zipWith]

/-- The blocks that some requests bring. -/
def brought (requests : List Request) : List Block :=
  requests.flatMap (·.answer.blocks)

theorem Apprised.produced_eq (apprised : feed.Apprised) :
    feed.produced = brought feed.requests := by
  rw [produced, ← apprised.map_answer, List.flatMap_map, brought]

/-! ## What the consumer is told is so -/

/-- The consumer is told the tip of the latest request for which a body has been got. -/
def Marked (feed : Feed) : Prop :=
  match feed.stage with
  | .posting _ _ _ => feed.tip = latestTip feed.requests.dropLast
  | .finished =>
      feed.tip = latestTip feed.requests ∨
        -- The loop was called off before it heard the answer to its last query.
        (feed.tip = latestTip feed.requests.dropLast ∧
          feed.gathered <+: brought feed.requests.dropLast)
  | _ => feed.tip = latestTip feed.requests

/-- The loop may have left the answer to its latest query unheard. -/
def Stage.mayIgnore : Stage -> Bool
  | .posting _ _ _ => true
  | .finished => true
  | _ => false

/-- The requests that the consumer knows of: all, or all but the latest one. -/
structure Announced (feed : Feed) (heard : List Request) : Prop where
  tip : feed.tip = latestTip heard
  gathered : feed.gathered <+: brought heard
  heard : heard = feed.requests ∨
    (heard = feed.requests.dropLast ∧ feed.stage.mayIgnore = true)

theorem dropLast_append_of_getLast?
    {requests : List Request} {request : Request}
    (isLast : requests.getLast? = some request) :
    requests = requests.dropLast ++ [request] := by
  obtain ⟨earlier, split⟩ := List.getLast?_eq_some_iff.mp isLast
  rw [split, List.dropLast_concat]

/-- While an answer is awaited, what has been gathered is what the earlier requests
brought. -/
theorem gathered_of_posting
    (apprised : feed.Apprised)
    (conserves : feed.Conserves cancelled)
    {tip : BlockRef} {since : Instant} {answer : Timed (Answer Reply)}
    (posting : feed.stage = .posting tip since answer) :
    feed.gathered = brought feed.requests.dropLast := by
  have prepared := apprised.prepared
  simp only [Conserves, posting] at conserves
  simp only [Prepared, posting] at prepared
  have whole := conserves.1.whole
  rw [apprised.produced_eq, dropLast_append_of_getLast? prepared.1, brought,
    List.flatMap_append, List.flatMap_singleton] at whole
  exact List.append_cancel_right whole

namespace Marked

/-- Unless the answer to the latest query may have been left unheard, all have been
heard. -/
theorem tip (marked : feed.Marked) (heard : feed.stage.mayIgnore = false) :
    feed.tip = latestTip feed.requests := by
  cases stage : feed.stage <;> simp_all [Marked, Stage.mayIgnore]

theorem of_resting
    (resting : feed.stage.isRequesting = false)
    (marked : feed.tip = latestTip feed.requests) :
    feed.Marked := by
  cases stage : feed.stage <;> simp_all [Marked, Stage.isRequesting]

/-- The requests that the consumer knows of. -/
theorem announced
    (marked : feed.Marked)
    (apprised : feed.Apprised)
    (conserves : feed.Conserves cancelled) :
    ∃ heard, feed.Announced heard := by
  have initial := conserves.gathered_isPrefix
  rw [apprised.produced_eq] at initial
  unfold Marked at marked
  split at marked
  · next posting =>
      have gathered := gathered_of_posting apprised conserves posting
      exact ⟨_, marked, gathered ▸ List.prefix_rfl, .inr ⟨rfl, by rw [posting]; rfl⟩⟩
  · next finished =>
      rcases marked with all | ⟨allButLast, gathered⟩
      · exact ⟨_, all, initial, .inl rfl⟩
      · exact ⟨_, allButLast, gathered, .inr ⟨rfl, by rw [finished]; rfl⟩⟩
  · exact ⟨_, marked, initial, .inl rfl⟩

/-- Every step of the loop tells the consumer what is so. -/
theorem proceed
    (marked : feed.Marked)
    (apprised : feed.Apprised)
    (conserves : feed.Conserves cancelled)
    (proceeding : feed.Proceeding now cancelled next) :
    next.Marked := by
  have prepared := apprised.prepared
  cases proceeding.learning with
  | asked turning =>
      change feed.tip = latestTip (feed.askHeight now false).requests
      rw [requests_askHeight]
      exact marked.tip (by rw [turning]; rfl)
  | recalled height turning => exact marked.tip (by rw [turning]; rfl)
  | learned since answer height asking => exact marked.tip (by rw [asking]; rfl)
  | posted tip resolved =>
      simp only [Marked, resolved] at marked
      have requests := apprised.requests_post conserves resolved now
      change feed.tip = latestTip (feed.post now false tip).requests.dropLast
      rw [requests, List.dropLast_concat, marked]
  | accepted tip since answer next posting accepted steady =>
      simp only [Prepared, posting] at prepared
      refine .of_resting steady.stage ?_
      have requests : next.requests = feed.requests := steady.requests
      rw [steady.tip, requests, dropLast_append_of_getLast? prepared.1,
        latestTip_append_accepted _ accepted]
  | declined tip since answer next posting declined steady =>
      simp only [Prepared, posting] at prepared
      simp only [Marked, posting] at marked
      refine .of_resting steady.stage ?_
      rw [steady.tip, steady.requests, dropLast_append_of_getLast? prepared.1,
        latestTip_append_other _ declined]
      exact marked
  | ended next finished gathered steady =>
      simp only [Marked, finished, steady.tip, steady.requests, gathered]
      cases stage : feed.stage with
      | finished => exact absurd stage proceeding.unfinished
      | posting tip since answer =>
          have before := gathered_of_posting apprised conserves stage
          simp only [Marked, stage] at marked
          exact .inr ⟨marked, before ▸ List.prefix_rfl⟩
      | _ => exact .inl (marked.tip (by rw [stage]; rfl))
  | rested next resting steady =>
      refine .of_resting steady.stage ?_
      rw [steady.tip, steady.requests]
      refine marked.tip ?_
      have unfinished := proceeding.unfinished
      cases stage : feed.stage <;> simp_all [Stage.isRequesting, Stage.mayIgnore]

end Marked

/-! ## The consumer -/

/-- A consumer leaves alone what the loop knows. -/
structure Leaves (feed next : Feed) : Prop extends Looking feed next where
  survey : next.survey = feed.survey
  knowledge : next.knowledge = feed.knowledge

namespace Leaves

theorem of_poll {result : Option Yield} (polling : feed.Polling now result next) :
    feed.Leaves next :=
  ⟨polling.looking, polling.survey, polling.knowledge⟩

theorem requests (leaves : feed.Leaves next) : next.requests = feed.requests := by
  rw [Feed.requests, leaves.answers, leaves.survey, Feed.requests]

theorem tip (leaves : feed.Leaves next) : next.tip = feed.tip :=
  congrArg Knowledge.tip leaves.knowledge

end Leaves

theorem Apprised.look (apprised : feed.Apprised) (leaves : feed.Leaves next) :
    next.Apprised := by
  refine ⟨?_, ?_, ?_, ?_⟩
  · rw [leaves.survey, leaves.asked]
    exact apprised.asked
  · rw [leaves.survey, leaves.answers]
    exact apprised.length
  · rw [leaves.requests]
    exact apprised.known
  · have prepared := apprised.prepared
    have cache : next.cache = feed.cache := congrArg Knowledge.cache leaves.knowledge
    unfold Prepared Recalls at prepared ⊢
    rw [leaves.stage, leaves.plan, leaves.asked, leaves.requests, cache]
    exact prepared

theorem Marked.look
    (marked : feed.Marked)
    (leaves : feed.Leaves next)
    (moves : feed.Moves next) :
    next.Marked := by
  have fewer : next.gathered <+: feed.gathered := by
    rcases moves with ⟨_, gathered⟩ | ⟨_, _, gathered⟩
    · exact gathered ▸ List.prefix_rfl
    · exact gathered ▸ List.prefix_append _ _
  unfold Marked at marked ⊢
  rw [leaves.stage, leaves.tip, leaves.requests]
  split at marked
  · exact marked
  · exact marked.imp id fun allButLast => ⟨allButLast.1, fewer.trans allButLast.2⟩
  · exact marked

/-- What the loop knows, and what the consumer is told of it. -/
structure Tipped (feed : Feed) (cancelled : Bool) : Prop where
  conserves : feed.Conserves cancelled
  apprised : feed.Apprised
  marked : feed.Marked

/-- Every consumer is told the tip of the latest request for which a body has been got. -/
theorem tipped_invariant :
    Fleet.Invariant fun feed _ cancelled => feed.Tipped cancelled where
  opened client portal query options now :=
    ⟨conserves_invariant.opened client portal query options now,
      ⟨rfl, rfl, nofun, nofun⟩, rfl⟩
  proceeds tipped proceeding :=
    ⟨tipped.conserves.proceed proceeding,
      tipped.apprised.proceed tipped.conserves proceeding,
      tipped.marked.proceed tipped.apprised tipped.conserves proceeding⟩
  polls tipped polling :=
    ⟨tipped.conserves.look polling.looking polling.moves,
      tipped.apprised.look (.of_poll polling),
      tipped.marked.look (.of_poll polling) polling.moves⟩
  leaves tipped :=
    have leaves : Leaves _ _ := ⟨looking_leave, rfl, rfl⟩
    ⟨tipped.conserves.look looking_leave (.inl ⟨rfl, rfl⟩),
      tipped.apprised.look leaves, tipped.marked.look leaves (.inl ⟨rfl, rfl⟩)⟩
  calledOff tipped := ⟨tipped.conserves.calledOff, tipped.apprised, tipped.marked⟩
  later _ tipped := tipped

/-! ## What a batch carries -/

/-- The last of some blocks, which are the first that the portal holds ready, has been
brought by the request at a place. -/
def BroughtLast (feed : Feed) (blocks : List Block) (place : Nat) : Prop :=
  ∃ request piece, feed.requests[place]? = some request ∧ piece ≠ [] ∧
    piece <+: request.answer.blocks ∧ blocks = brought (feed.requests.take place) ++ piece

/-- The latest request for which the loop has got a body. -/
structure IsLatest (feed : Feed) (latest : Nat) (request : Request) : Prop where
  found : feed.requests[latest]? = some request
  accepted : request.answer.isAccepted = true
  /-- A body for a later request has not been heard of. -/
  later : ∀ place other, latest < place -> feed.requests[place]? = some other ->
    other.answer.isAccepted = true ->
    place + 1 = feed.requests.length ∧ feed.stage.mayIgnore = true

/-- No two requests bring the last of the same blocks. -/
theorem BroughtLast.unique
    {blocks : List Block} {place other : Nat}
    (here : feed.BroughtLast blocks place)
    (there : feed.BroughtLast blocks other) :
    place = other := by
  -- The blocks reach beyond all requests before the later one, among them the earlier one.
  have notBefore : ∀ {place other : Nat}, feed.BroughtLast blocks place ->
      feed.BroughtLast blocks other -> ¬place < other := by
    rintro place other ⟨request, piece, found, _, isInitial, split⟩
      ⟨_, later, _, somePiece, _, splitLater⟩ before
    have reaches : (brought (feed.requests.take place)).length + piece.length ≤
        (brought (feed.requests.take other)).length := by
      obtain ⟨between, longer⟩ :=
        List.take_prefix_take_left (l := feed.requests) (Nat.succ_le_of_lt before)
      have isNext : brought (feed.requests.take (place + 1)) =
          brought (feed.requests.take place) ++ request.answer.blocks := by
        rw [List.take_add_one, found, brought, List.flatMap_append]
        simp [brought]
      have whole : brought (feed.requests.take other) =
          brought (feed.requests.take (place + 1)) ++ brought between := by
        rw [← longer, brought, List.flatMap_append]
        rfl
      rw [whole, isNext, List.length_append, List.length_append]
      have bound := isInitial.length_le
      omega
    have lengths := congrArg List.length (split.symm.trans splitLater)
    rw [List.length_append, List.length_append] at lengths
    have positive := List.length_pos_iff.mpr somePiece
    omega
  exact Nat.le_antisymm (Nat.le_of_not_lt (notBefore there here))
    (Nat.le_of_not_lt (notBefore here there))

/-- The last of the blocks that have been gathered was brought by a request, and the
consumer is told the tip of this request or of a later one. -/
theorem Tipped.carries
    (tipped : feed.Tipped cancelled)
    {blocks : List Block}
    (isInitial : blocks <+: feed.gathered)
    (someBlocks : blocks ≠ []) :
    ∃ origin latest request, feed.BroughtLast blocks origin ∧ origin ≤ latest ∧
      feed.IsLatest latest request ∧ feed.tip = request.tip ∧ request.tip.isSome = true := by
  obtain ⟨heard, announced⟩ := tipped.marked.announced tipped.apprised tipped.conserves
  obtain ⟨unheard, parts⟩ : heard <+: feed.requests := by
    rcases announced.heard with all | ⟨allButLast, _⟩
    · exact all ▸ List.prefix_rfl
    · exact allButLast ▸ List.dropLast_prefix _
  have stays : ∀ {place : Nat} {request : Request}, heard[place]? = some request ->
      feed.requests[place]? = some request := by
    intro place request found
    obtain ⟨bound, _⟩ := List.getElem?_eq_some_iff.mp found
    rw [← parts, List.getElem?_append_left bound, found]
  obtain ⟨origin, first, piece, isFirst, somePiece, isPiece, split⟩ :=
    exists_bringer (isInitial.trans announced.gathered) someBlocks
  have accepted : first.answer.isAccepted = true :=
    Answer.isAccepted_of_blocks fun noBlocks =>
      somePiece (List.prefix_nil.mp (noBlocks ▸ isPiece))
  obtain ⟨latest, request, notEarlier, isLatest, acceptedToo, isFiltered, none⟩ :=
    exists_latest (fun request => request.answer.isAccepted) isFirst accepted
  refine ⟨origin, latest, request, ⟨first, piece, stays isFirst, somePiece, isPiece, ?_⟩,
    notEarlier, ⟨stays isLatest, acceptedToo, ?_⟩, ?_, ?_⟩
  · obtain ⟨bound, _⟩ := List.getElem?_eq_some_iff.mp isFirst
    rw [split, ← parts, List.take_append_of_le_length (Nat.le_of_lt bound), brought]
  · intro place other behind isOther isAccepted
    obtain ⟨bound, _⟩ := List.getElem?_eq_some_iff.mp isOther
    have notHeard : heard.length ≤ place := by
      by_contra inside
      have isHeard := List.getElem?_eq_getElem (Nat.lt_of_not_le inside)
      have same := Option.some.inj ((stays isHeard).symm.trans isOther)
      have refused := none place _ behind isHeard
      rw [same, isAccepted] at refused
      cases refused
    rcases announced.heard with all | ⟨allButLast, mayIgnore⟩
    · rw [all] at notHeard
      omega
    · rw [allButLast, List.length_dropLast] at notHeard
      exact ⟨by omega, mayIgnore⟩
  · rw [announced.tip, latestTip, isFiltered]
    rfl
  · exact tipped.apprised.known request (List.mem_of_getElem? (stays isLatest))

/-- A batch that the consumer gets carries the tip that it is told. -/
theorem Polling.of_batch
    {batch : Batch}
    (polling : feed.Polling now (some (.batch batch)) next) :
    batch.finalizedHead = feed.tip ∧ next.delivered = feed.delivered ++ batch.blocks ∧
      batch ∈ next.batches := by
  cases polling with
  | took deadline blocks rest =>
      refine ⟨rfl, delivered_handedOut feed now _ _ _, ?_⟩
      have yields : (feed.handedOut now (.batch (feed.batchOf blocks)) .idle rest).yields =
          feed.yields ++ [.batch (feed.batchOf blocks)] :=
        feed.yields_record now (.yielded _)
      rw [batches, yields, List.filterMap_append]
      exact List.mem_append_right _ (List.mem_singleton.mpr rfl)

/-- The last block of a batch that the consumer gets was brought by a request, and the
batch carries the tip of the latest one. -/
theorem Tipped.carries_batch
    (tipped : feed.Tipped cancelled)
    (accountable : feed.Accountable)
    {batch : Batch}
    (polls : (feed.poll now).1 = some (.batch batch)) :
    ∃ origin latest request, feed.BroughtLast (feed.delivered ++ batch.blocks) origin ∧
      origin ≤ latest ∧ feed.IsLatest latest request ∧ batch.finalizedHead = request.tip ∧
      request.tip.isSome = true := by
  have polling := polling_poll feed now
  rw [polls] at polling
  obtain ⟨head, delivered, isBatch⟩ := polling.of_batch
  have isInitial : feed.delivered ++ batch.blocks <+: (feed.poll now).2.gathered :=
    delivered ▸ List.prefix_append _ _
  have someBlocks : feed.delivered ++ batch.blocks ≠ [] := fun nothing =>
    (accountable.poll polling).batches batch isBatch (List.append_eq_nil_iff.mp nothing).2
  obtain ⟨origin, latest, request, brought, notEarlier, isLatest, tip, isSome⟩ :=
    (tipped_invariant.polls tipped polling).carries isInitial someBlocks
  -- The consumer has changed neither the requests nor the place of the loop.
  have leaves := Leaves.of_poll polling
  rw [BroughtLast, leaves.requests] at brought
  obtain ⟨found, accepted, behind⟩ := isLatest
  rw [leaves.requests] at found behind
  rw [leaves.stage] at behind
  refine ⟨origin, latest, request, brought, notEarlier, ⟨found, accepted, behind⟩, ?_, isSome⟩
  rw [head, ← tip, leaves.tip]

end Feed

namespace Fleet

/-- The batch that the consumer would get now: the numbers of its blocks, and its tip. -/
def offer? (member : Member) (now : Instant) : Option (List UInt64 × Option BlockRef) :=
  ((member.feed.poll now).1.bind Feed.Yield.batch?).map fun batch =>
    (batch.blocks.map Block.number, batch.finalizedHead)

theorem poll_of_offer
    {member : Member} {now : Instant} {numbers : List UInt64} {tip : Option BlockRef}
    (offered : offer? member now = some (numbers, tip)) :
    ∃ batch, (member.feed.poll now).1 = some (.batch batch) ∧
      batch.blocks.map Block.number = numbers ∧ batch.finalizedHead = tip := by
  obtain ⟨batch, isBatch, seen⟩ := Option.map_eq_some_iff.mp offered
  obtain ⟨given, polls, isGiven⟩ := Option.bind_eq_some_iff.mp isBatch
  obtain ⟨isNumbers, isTip⟩ := Prod.mk.inj seen
  cases given with
  | batch value =>
      obtain rfl : value = batch := Option.some.inj isGiven
      exact ⟨value, polls, isNumbers, isTip⟩
  | _ => cases isGiven

/-- At every moment of every run, a query is posted for the tip that the loop has resolved.
A batch that the consumer gets carries the tip of the latest request for which a body has
been got, which is not earlier than the request that brought the last block of the batch.
It is the same request if no body has been held ready for a later one. -/
theorem batches_carry_latest_tips (tokens : Tokens) (actions : List Action) :
    let fleet := (create tokens).run actions
    ∀ member ∈ fleet.members,
      let feed := member.feed
      (∀ tip now, feed.stage = .resolved tip ->
        ∃ answer, (feed.post now false tip).requests = feed.requests ++ [⟨answer, some tip⟩]) ∧
      ∀ batch, (feed.poll fleet.now).1 = some (.batch batch) ->
        ∃ origin latest request,
          feed.BroughtLast (feed.delivered ++ batch.blocks) origin ∧
          origin ≤ latest ∧ feed.IsLatest latest request ∧
          batch.finalizedHead = request.tip ∧ request.tip.isSome = true ∧
          ((∀ place later, origin < place -> feed.requests[place]? = some later ->
            later.answer.isAccepted = false) -> latest = origin) := by
  intro fleet member mem feed
  have tipped := Feed.tipped_invariant.run tokens actions member mem
  have accountable := Feed.accountable_invariant.run tokens actions member mem
  refine ⟨?_, ?_⟩
  · intro tip now resolved
    exact ⟨_, tipped.apprised.requests_post tipped.conserves resolved now⟩
  · intro batch polls
    obtain ⟨origin, latest, request, brought, notEarlier, isLatest, head, isSome⟩ :=
      tipped.carries_batch accountable polls
    refine ⟨origin, latest, request, brought, notEarlier, isLatest, head, isSome, ?_⟩
    intro noneLater
    by_contra notSame
    have refused := noneLater latest request (by omega) isLatest.found
    rw [isLatest.accepted] at refused
    cases refused

/-- A batch is got before the next query is posted. -/
theorem batches_carry_latest_tips_of_one_query :
    let line := Bytes.ofString "\x7b\"header\":\x7b\"number\":1\x7d\x7d"
    let portal := Portal.scripted [⟨0, .ok "100"⟩] [⟨0, .ok ⟨200, some [⟨0, .data line⟩]⟩⟩]
    let fleet := (create .empty).run <|
      .opened ⟨"", "", {}⟩ portal (.ofSelection (.empty .evm)) {} ::
        List.replicate 6 (.proceed 0)
    ∃ member batch, fleet.members[0]? = some member ∧
      (member.feed.poll fleet.now).1 = some (.batch batch) ∧
      member.feed.BroughtLast (member.feed.delivered ++ batch.blocks) 0 ∧
      member.feed.requests.map (·.tip) = [batch.finalizedHead] := by
  intro line portal fleet
  have shape : fleet.members.map (fun member =>
      (offer? member fleet.now, member.feed.requests.map (·.tip))) =
        [(some ([1], some ⟨100, ""⟩), [some ⟨100, ""⟩])] := by
    decide +kernel
  obtain ⟨member, found, seen⟩ := exists_of_observed shape
  obtain ⟨offered, tips⟩ := Prod.mk.inj seen
  obtain ⟨batch, polls, _, head⟩ := poll_of_offer offered
  obtain ⟨_, carries⟩ :=
    batches_carry_latest_tips .empty _ member (List.mem_of_getElem? found)
  obtain ⟨origin, _, _, brought, _⟩ := carries batch polls
  have isFirst : origin = 0 := by
    obtain ⟨_, _, isOrigin, _⟩ := brought
    obtain ⟨bound, _⟩ := List.getElem?_eq_some_iff.mp isOrigin
    have single := congrArg List.length tips
    rw [List.length_map, List.length_singleton] at single
    omega
  exact ⟨member, batch, found, polls, isFirst ▸ brought, by rw [tips, head]⟩

/-- A consumer who takes the first block while the second body is on its way gets it with
the tip that was resolved for the second query. -/
theorem batch_carries_tip_of_later_query :
    let line := fun number : String =>
      Bytes.ofString ("\x7b\"header\":\x7b\"number\":" ++ number ++ "\x7d\x7d")
    let portal := Portal.scripted [⟨0, .ok "100"⟩, ⟨0, .ok "200"⟩]
      [⟨0, .ok ⟨200, some [⟨0, .data (line "1")⟩]⟩⟩,
        ⟨0, .ok ⟨200, some [⟨Duration.ofSeconds 1, .data (line "2")⟩]⟩⟩]
    let fleet := (create .empty).run <|
      .opened ⟨"", "", { tipRefresh := 0 }⟩ portal (.ofSelection (.empty .evm)) {} ::
        List.replicate 10 (.proceed 0)
    ∃ member batch first, fleet.members[0]? = some member ∧
      (member.feed.poll fleet.now).1 = some (.batch batch) ∧
      member.feed.BroughtLast (member.feed.delivered ++ batch.blocks) 0 ∧
      member.feed.requests[0]? = some first ∧ first.tip = some ⟨100, ""⟩ ∧
      batch.finalizedHead = some ⟨200, ""⟩ := by
  intro line portal fleet
  have shape : fleet.members.map (fun member =>
      (offer? member fleet.now, member.feed.delivered.length,
        member.feed.requests.map fun request => (request.answer.blocks.length, request.tip))) =
        [(some ([1], some ⟨200, ""⟩), 0, [(1, some ⟨100, ""⟩), (1, some ⟨200, ""⟩)])] := by
    decide +kernel
  obtain ⟨member, found, seen⟩ := exists_of_observed shape
  obtain ⟨offered, rest⟩ := Prod.mk.inj seen
  obtain ⟨noneBefore, requests⟩ := Prod.mk.inj rest
  obtain ⟨batch, polls, numbers, head⟩ := poll_of_offer offered
  obtain ⟨first, second, split, isFirst, _⟩ := List.map_eq_cons_iff.mp requests
  obtain ⟨one, firstTip⟩ := Prod.mk.inj isFirst
  have mem := List.mem_of_getElem? found
  obtain ⟨origin, _, _, brought, _⟩ :=
    (Feed.tipped_invariant.run .empty _ member mem).carries_batch
      (Feed.accountable_invariant.run .empty _ member mem) polls
  have isOrigin : origin = 0 := by
    obtain ⟨_, piece, _, somePiece, _, parts⟩ := brought
    have lengths := congrArg List.length parts
    have single := congrArg List.length numbers
    have positive := List.length_pos_iff.mpr somePiece
    rw [List.length_map, List.length_singleton] at single
    rw [List.length_append, List.length_append, noneBefore, single] at lengths
    cases origin with
    | zero => rfl
    | succ before =>
        rw [split, List.take_succ_cons, Feed.brought, List.flatMap_cons,
          List.length_append, one] at lengths
        omega
  exact ⟨member, batch, first, found, polls, isOrigin ▸ brought, by rw [split]; rfl,
    firstTip, head⟩

end Fleet
end BlockFeed
