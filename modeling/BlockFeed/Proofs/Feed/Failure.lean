import BlockFeed.Proofs.Feed.Ending
import BlockFeed.Proofs.Feed.Replies

/-!
# Failures of a feed

A loop meets a fault in one of a few places: in the answer to a request, in its
status, in a part of a body or in a line that is not a block. Such a fault is passed on
as it is. Nothing is asked of the portal any more, and the consumer gets the fault once,
behind nothing but batches and right before the end.
-/

namespace BlockFeed
namespace Feed

/-! ## Faults that the loop meets -/

/-- The next step of the loop meets a fault. -/
inductive Meets (feed : Feed) (now : Instant) : Fault -> Prop
  /-- The request for the height failed, or the transport broke down. -/
  | height (since : Instant) (answer : Timed (Answer String)) (fault : Fault) :
      feed.stage = .asking since answer ->
      since + answer.delay ≤ now ->
      answer.content.outcome = .error fault ->
      Meets feed now fault
  /-- The height is not a number. -/
  | heightText (since : Instant) (answer : Timed (Answer String)) (body : String) :
      feed.stage = .asking since answer ->
      since + answer.delay ≤ now ->
      answer.content = .ok body ->
      Height.number? (Text.trimWhiteSpace body.toList) = none ->
      Meets feed now (.invalidHeight body)
  /-- The query failed, or the transport broke down. -/
  | reply (tip : BlockRef) (since : Instant) (answer : Timed (Answer Reply)) (fault : Fault) :
      feed.stage = .posting tip since answer ->
      since + answer.delay ≤ now ->
      answer.content.outcome = .error fault ->
      Meets feed now fault
  /-- The query was answered with a status that has no meaning here. -/
  | status (tip : BlockRef) (since : Instant) (answer : Timed (Answer Reply)) (reply : Reply) :
      feed.stage = .posting tip since answer ->
      since + answer.delay ≤ now ->
      answer.content = .ok reply ->
      reply.status ≠ 200 ->
      reply.status ≠ 204 ->
      Meets feed now (.unexpectedStatus reply.status.toNat feed.plan.address)
  /-- The body broke off. -/
  | part (since : Instant) (reading : Reading) (delay : Duration) (fault : Fault)
      (rest : List (Timed Item)) :
      feed.stage = .reading since reading ->
      reading.rest = ⟨delay, .failed fault⟩ :: rest ->
      since + delay ≤ now ->
      Meets feed now fault
  /-- The transport broke down in the body. -/
  | crash (since : Instant) (reading : Reading) (delay : Duration)
      (rest : List (Timed Item)) :
      feed.stage = .reading since reading ->
      reading.rest = ⟨delay, .crash⟩ :: rest ->
      since + delay ≤ now ->
      Meets feed now breakdown
  /-- A part of the body completed a line that is no block. -/
  | line (since : Instant) (reading : Reading) (delay : Duration) (chunk : Bytes)
      (rest : List (Timed Item)) (line : Bytes) (problem : Json.Problem) :
      feed.stage = .reading since reading ->
      reading.rest = ⟨delay, .data chunk⟩ :: rest ->
      since + delay ≤ now ->
      Ndjson.SpoiledBy (reading.splitter.push chunk).1 line problem ->
      Meets feed now (.malformed line problem)
  /-- The last line of the body is no block. -/
  | lastLine (since : Instant) (reading : Reading) (line : Bytes) (problem : Json.Problem) :
      feed.stage = .reading since reading ->
      reading.rest = [] ->
      Ndjson.SpoiledBy reading.splitter.finish.1.toList line problem ->
      Meets feed now (.malformed line problem)

variable {feed next : Feed} {now : Instant} {cancelled : Bool} {fault : Fault}

/-- Lines that are no blocks end the loop. -/
theorem putLines_of_spoiled
    {lines : List Bytes} {line : Bytes} {problem : Json.Problem}
    (spoiled : Ndjson.SpoiledBy lines line problem)
    (feed : Feed) (now : Instant) (reading : Reading) :
    (feed.putLines now reading lines).stage = .finished ∧
      (feed.putLines now reading lines).buffer =
        feed.buffer.fail (.malformed line problem) := by
  rw [putLines, spoiled.portion_eq]
  dsimp only
  split
  · exact ⟨rfl, rfl⟩
  · exact ⟨rfl, rfl⟩

/-- A loop that meets a fault ends with it at once. -/
theorem Meets.proceed (meets : feed.Meets now fault) :
    ∃ next, feed.proceed? now false = some next ∧ next.stage = .finished ∧
      next.buffer = feed.buffer.fail fault := by
  cases meets with
  | height since answer _ asking arrived failed =>
      refine ⟨feed.fail fault, ?_, rfl, rfl⟩
      cases content : answer.content with
      | ok body => simp [content, Answer.outcome] at failed
      | failed reported =>
          simp_all [proceed?, hearHeight, Answer.outcome]
      | crash =>
          simp_all [proceed?, hearHeight, Answer.outcome]
  | heightText since answer body asking arrived isBody noNumber =>
      refine ⟨feed.fail (.invalidHeight body), ?_, rfl, rfl⟩
      have unread : Height.parse body = .error (.invalidHeight body) :=
        Height.parse_eq_error_iff.mpr ⟨rfl, noNumber⟩
      simp [proceed?, asking, arrived, isBody, hearHeight, unread]
  | reply tip since answer _ posting arrived failed =>
      refine ⟨feed.fail fault, ?_, rfl, rfl⟩
      cases content : answer.content with
      | ok reply => simp [content, Answer.outcome] at failed
      | failed reported => simp_all [proceed?, hearReply, Answer.outcome]
      | crash => simp_all [proceed?, hearReply, Answer.outcome]
  | status tip since answer reply posting arrived isReply notOk notEmpty =>
      refine ⟨(feed.decline now reply).fail
        (.unexpectedStatus reply.status.toNat feed.plan.address), ?_, rfl, ?_⟩
      · simp [proceed?, posting, arrived, isReply, hearReply, notOk, notEmpty]
      · rw [fail, buffer_decline]
  | part since reading delay _ rest stage parts arrived =>
      refine ⟨((feed.record now (.received reading.index (.failed fault))).abandon now).fail fault,
        ?_, rfl, rfl⟩
      simp [proceed?, stage, read?, parts, arrived, receive]
  | crash since reading delay rest stage parts arrived =>
      refine ⟨(feed.abandon now).fail breakdown, ?_, rfl, rfl⟩
      simp [proceed?, stage, read?, parts, arrived, receive]
  | line since reading delay chunk rest line problem stage parts arrived spoiled =>
      have proceeds : feed.proceed? now false =
          some (feed.receive now reading (.data chunk) rest) := by
        simp [proceed?, stage, read?, parts, arrived]
      exact ⟨_, proceeds, putLines_of_spoiled spoiled _ now _⟩
  | lastLine since reading line problem stage atEnd spoiled =>
      have proceeds : feed.proceed? now false = some (feed.exhaust now reading) := by
        simp [proceed?, stage, read?, atEnd]
      exact ⟨_, proceeds, putLines_of_spoiled spoiled _ now _⟩

/-! ### There are no others -/

/-- The buffer has failed by a fault. -/
abbrev FailedBy (feed : Feed) (fault : Fault) : Prop :=
  feed.buffer.phase = .failed (some fault)

theorem eq_of_failedBy
    {reported : Fault}
    (running : feed.buffer.phase = .running)
    (failedBy : (feed.fail reported).FailedBy fault) :
    fault = reported := by
  have ended : Buffer.endedBy reported = .failed (some fault) := by
    have phase : (feed.buffer.fail reported).phase = .failed (some fault) := failedBy
    rwa [Buffer.fail_of_running running] at phase
  unfold Buffer.endedBy at ended
  split at ended
  · cases ended
  · cases ended
    rfl

theorem not_failedBy_finish (running : feed.buffer.phase = .running) :
    ¬feed.finish.FailedBy fault := by
  rw [FailedBy, finish, Buffer.close_of_running running]
  nofun

theorem not_failedBy_atHead (running : feed.buffer.phase = .running) :
    ¬(feed.atHead now).FailedBy fault := by
  unfold atHead
  split
  · exact not_failedBy_finish running
  · simp [FailedBy, running]

theorem not_failedBy_endReply
    (running : feed.buffer.phase = .running)
    (origin cursor : UInt64) :
    ¬(feed.endReply now origin cursor).FailedBy fault := by
  have hinted : feed.buffer.hint.phase = .running := running
  unfold endReply
  split
  · exact not_failedBy_atHead hinted
  · simp [FailedBy, hinted]

theorem not_failedBy_continueReading
    (running : feed.buffer.phase = .running)
    (reading : Reading) :
    ¬(feed.continueReading now reading).FailedBy fault := by
  unfold continueReading
  split
  · exact not_failedBy_endReply running _ _
  · simp [FailedBy, running]

/-- Handing on lines makes the feed fail only if one of them is no block. -/
theorem Handing.spoiledBy
    {reading : Reading} {lines : List Bytes}
    (handing : feed.Handing now reading lines next)
    (running : feed.buffer.phase = .running)
    (failedBy : next.FailedBy fault) :
    ∃ line problem, Ndjson.SpoiledBy lines line problem ∧ fault = .malformed line problem := by
  cases handing with
  | spoiled reported spoiled =>
      have isReported : fault = reported := by
        split at failedBy
        · exact eq_of_failedBy running failedBy
        · exact eq_of_failedBy running failedBy
      rw [isReported]
      exact Ndjson.spoiledBy_of_portion spoiled
  | blank => exact absurd failedBy (not_failedBy_continueReading running _)
  | added =>
      refine absurd failedBy (not_failedBy_continueReading ?_ _)
      exact running
  | filled => simp [FailedBy, running] at failedBy
  | discarded => exact absurd failedBy (not_failedBy_continueReading running _)

/-- A loop fails only if it meets a fault and has not been called off. -/
theorem Proceeding.meets
    (proceeding : feed.Proceeding now cancelled next)
    (running : feed.buffer.phase = .running)
    (failedBy : next.FailedBy fault) :
    cancelled = false ∧ feed.Meets now fault := by
  cases proceeding with
  | overreached => exact absurd failedBy (not_failedBy_finish running)
  | calledOff =>
      unfold callOff at failedBy
      split at failedBy
      · exact absurd failedBy (not_failedBy_finish running)
      · exact absurd failedBy (not_failedBy_finish running)
  | unlearned since answer reported asking going arrived failed =>
      rw [eq_of_failedBy running failedBy]
      refine ⟨going, ?_⟩
      cases outcome : answer.content.outcome with
      | error problem =>
          have same : problem = reported := by simpa [outcome, Except.bind] using failed
          exact .height since answer reported asking arrived (same ▸ outcome)
      | ok body =>
          have isBody : answer.content = .ok body := by
            cases content : answer.content <;> simp_all [Answer.outcome]
          have unread : Height.parse body = .error reported := by
            simpa [outcome, Except.bind] using failed
          obtain ⟨rfl, noNumber⟩ := Height.parse_eq_error_iff.mp unread
          exact .heightText since answer body asking arrived isBody noNumber
  | bodiless tip =>
      refine absurd failedBy (not_failedBy_endReply ?_ _ _)
      exact running
  | nothing tip since answer reply =>
      exact absurd failedBy (not_failedBy_atHead (by rw [buffer_decline]; exact running))
  | refused tip since answer reply posting going arrived content notOk notEmpty =>
      have declined : (feed.decline now reply).buffer.phase = .running := by
        rw [buffer_decline]
        exact running
      rw [eq_of_failedBy declined failedBy]
      exact ⟨going, .status tip since answer reply posting arrived content
        (by simpa using notOk) (by simpa using notEmpty)⟩
  | unanswered tip since answer reported posting going arrived failed =>
      rw [eq_of_failedBy running failedBy]
      exact ⟨going, .reply tip since answer reported posting arrived failed⟩
  | exhausted since reading next stage going atEnd handing =>
      obtain ⟨line, problem, spoiled, rfl⟩ := handing.spoiledBy running failedBy
      exact ⟨going, .lastLine since reading line problem stage atEnd spoiled⟩
  | received since reading delay chunk rest next stage going parts arrived handing =>
      obtain ⟨line, problem, spoiled, rfl⟩ := handing.spoiledBy running failedBy
      exact ⟨going, .line since reading delay chunk rest line problem stage parts arrived spoiled⟩
  | broke since reading delay reported rest stage going parts arrived =>
      rw [eq_of_failedBy running failedBy]
      exact ⟨going, .part since reading delay reported rest stage parts arrived⟩
  | crashed since reading delay rest stage going parts arrived =>
      rw [eq_of_failedBy running failedBy]
      exact ⟨going, .crash since reading delay rest stage parts arrived⟩
  | admitted => exact absurd failedBy (not_failedBy_continueReading running _)
  | _ => simp_all [FailedBy, askHeight, post, record]

/-- A feed that has just failed is left with the fault and the end for its consumer. -/
theorem concluded_of_failed
    (flowing : next.Flowing)
    (finished : next.stage = .finished)
    (failedBy : next.FailedBy fault) :
    next.Concluded next.dealings (next.yields ++ [.failed fault, .ended]) where
  finished := finished
  ended := by rw [failedBy]; nofun
  dealings := rfl
  winds := by
    have closing : next.closing = [.failed fault, .ended] := by
      simp only [Feed.closing, failedBy]
      rfl
    rw [← closing]
    exact flowing.windsUp

end Feed

namespace Fleet

/-- A loop fails only by a fault that it meets while it has not been called off, and each
such fault that is not a cancellation makes it fail at once. The consumer has got only
batches by then. The failing step asks nothing of the portal, and the portal hears
nothing more. Whatever happens later, the consumer gets no more than the fault as it was
met and then the end, and it gets both if it asks twice and has not gone. Only a consumer
one of whose timers overshoots may get an overflow instead. -/
theorem failures_surface_once_and_last (tokens : Tokens) (actions : List Action) :
    let fleet := (create tokens).run actions
    ∀ (index : Nat) (member : Member), fleet.members[index]? = some member ->
      let feed := member.feed
      (∀ next fault, feed.proceed? fleet.now (fleet.isCancelled member) = some next ->
        next.FailedBy fault -> fleet.isCancelled member = false ∧ feed.Meets fleet.now fault) ∧
      ∀ fault, fleet.isCancelled member = false -> feed.Meets fleet.now fault ->
        fault.isCancelled = false ->
        (∀ given ∈ feed.yields,
          (given = .overflow ∧ feed.Overran fleet.now) ∨ given.batch?.isSome = true) ∧
        ∃ failed, (fleet.act (.proceed index)).members[index]? = some failed ∧
          failed.feed.FailedBy fault ∧ feed.Notes failed.feed fleet.now ∧
          ∀ more, ∃ later,
            ((fleet.act (.proceed index)).run more).members[index]? = some later ∧
            later.feed.dealings = failed.feed.dealings ∧
            ∃ got, later.feed.yields = feed.yields ++ got ∧
              (later.feed.Overran ((fleet.act (.proceed index)).run more).now ∨
                (got <+: [.failed fault, .ended] ∧
                  (later.feed.consumer ≠ .gone -> [.poll index, .poll index].Sublist more ->
                    got = [.failed fault, .ended]))) := by
  intro fleet index member found feed
  have mem : member ∈ fleet.members := List.mem_of_getElem? found
  have conserves := Feed.conserves_invariant.run tokens actions member mem
  refine ⟨?_, ?_⟩
  · intro next fault proceeds failedBy
    have proceeding := Feed.proceeding_of_proceed proceeds
    exact proceeding.meets (conserves.running proceeding.unfinished) failedBy
  · intro fault going meets notCancelled
    obtain ⟨next, proceeds, finished, buffer⟩ := meets.proceed
    have proceeding := Feed.proceeding_of_proceed proceeds
    have running := conserves.running proceeding.unfinished
    have flowing := Feed.flowing_invariant.run tokens actions member mem running
    have failedBy : next.FailedBy fault := by
      rw [Feed.FailedBy, buffer, Buffer.fail_of_running running]
      simp [Buffer.endedBy, notCancelled]
    have notes : feed.Notes next fleet.now := by
      rcases proceeding.notes_or_request with notes | ⟨_, _, asked⟩ | ⟨tip, _, posted⟩
      · exact notes
      · rw [asked] at finished
        cases finished
      · rw [posted] at finished
        cases finished
    have isNext : (fleet.act (.proceed index)).members[index]? =
        some { member with feed := next } := by
      rw [act_proceed found (going ▸ proceeds), getElem?_update, if_pos rfl, found,
        Option.map_some]
    have concluded :=
      Feed.concluded_of_failed (flowing.proceed proceeding.feeding) finished failedBy
    rw [proceeding.feeding.yields] at concluded
    have nothingSince : feed.yields <+: next.yields :=
      ⟨[], (List.append_nil _).trans proceeding.feeding.yields.symm⟩
    have timely := Feed.timely_invariant.run tokens actions member mem
    have stillTimely := timely.act_proceed proceeding.feeding index
    exact ⟨fun given got => flowing.overran_or_batch timely got, _, isNext, failedBy, notes,
      concludes isNext concluded nothingSince stillTimely⟩

/-- A height that is no number makes a feed fail before there is any batch. -/
theorem failures_surface_once_and_last_for_bad_height :
    let portal := Portal.scripted [⟨0, .ok "high"⟩] []
    let fleet := (create .empty).run
      [.opened ⟨"", "", {}⟩ portal (.ofSelection (.empty .evm)) {}, .proceed 0]
    ∃ member later, fleet.members[0]? = some member ∧
      member.feed.Meets fleet.now (.invalidHeight "high") ∧
      ((fleet.act (.proceed 0)).run [.poll 0, .poll 0]).members[0]? = some later ∧
      later.feed.yields = [.failed (.invalidHeight "high"), .ended] := by
  intro portal fleet
  let observe := fun member : Member =>
    (member.feed.yields.all (fun given => given.isFailure || given.isEnd), member.feed.consumer)
  have shape : ((fleet.act (.proceed 0)).run [.poll 0, .poll 0]).members.map observe =
      [(true, .over)] := by
    decide +kernel
  obtain ⟨member, found⟩ : ∃ member, fleet.members[0]? = some member := ⟨_, rfl⟩
  have meets : member.feed.Meets fleet.now (.invalidHeight "high") := by
    cases found
    exact .heightText 0 ⟨0, .ok "high"⟩ "high" rfl (Nat.le_refl _) rfl (by decide +kernel)
  have going : fleet.isCancelled member = false := by
    cases found
    decide +kernel
  obtain ⟨_, surfaces⟩ := failures_surface_once_and_last .empty _ 0 member found
  obtain ⟨_, failed, isFailed, _, _, follows⟩ := surfaces _ going meets rfl
  obtain ⟨later, isLater, _, got, yields, outcome⟩ := follows [.poll 0, .poll 0]
  have seen : observe later = (true, .over) := observe_eq shape isLater
  obtain ⟨told, isOver⟩ := Prod.mk.inj seen
  have noOverflow : .overflow ∉ later.feed.yields := fun overflow =>
    absurd (List.all_eq_true.mp told _ overflow) nofun
  obtain ⟨_, whole⟩ := outcome.resolve_left fun overran => noOverflow overran.1
  have stays : later.feed.consumer ≠ .gone := by
    rw [isOver]
    nofun
  have nothingBefore : member.feed.yields = [] := by
    cases found
    rfl
  refine ⟨member, later, found, meets, isLater, ?_⟩
  rw [yields, nothingBefore, List.nil_append]
  exact whole stays (List.Sublist.refl _)

/-- A height is no number, and the consumer would wait for the longest time that there is: it
overflows and is never told of the fault. Without a limit of its own it is told of the fault
and then of the end. -/
theorem longest_wait_hides_bad_height :
    let longest : Duration := Duration.ofSeconds (Nat.pow 2 64 - 1) + 999999999
    let portal := Portal.scripted [⟨0, .ok "high"⟩] []
    let final := fun patience : Option Duration =>
      (create .empty).run
        [.opened ⟨"", "", {}⟩ portal (.ofSelection (.empty .evm)) { maxWait := patience },
          .proceed 0, .proceed 0, .poll 0, .poll 0]
    (final (some longest)).members.map (fun member =>
        (member.feed.buffer.phase, member.feed.yields == [.overflow])) =
        [(.failed (some (.invalidHeight "high")), true)] ∧
      (final none).members.map (fun member =>
        (member.feed.buffer.phase,
          member.feed.yields == [.failed (.invalidHeight "high"), .ended])) =
        [(.failed none, true)] := by
  decide +kernel

end Fleet
end BlockFeed
