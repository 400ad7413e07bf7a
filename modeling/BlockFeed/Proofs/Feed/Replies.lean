import BlockFeed.Proofs.Feed.Account
import BlockFeed.Proofs.Ndjson.Soundness

/-!
# Replies that are read to their end

A reply can be read to its end if it has no body, or if its body arrives as a whole
and every line that carries something holds a block. A feed goes on behind a reply
only if it has read it to its end, so that all replies but the latest one are such.
-/

namespace BlockFeed

/-- The blocks of a reply that can be read to its end. A reply without a body holds
none. -/
def Answer.blocks? : Answer Reply -> Option (List Block)
  | .ok reply =>
      if reply.status == 200 then
        match reply.body with
        | some parts =>
            if Reply.isWhole parts then (Ndjson.ofBody (Reply.octets parts)).toOption else none
        | none => some []
      else if reply.status == 204 then some []
      else none
  | _ => none

/-- What can be read to its end is what the portal holds ready. -/
theorem Answer.blocks_of_blocks?
    {answer : Answer Reply} {read : List Block}
    (isRead : answer.blocks? = some read) :
    answer.blocks = read := by
  cases answer with
  | failed fault => simp [Answer.blocks?] at isRead
  | crash => simp [Answer.blocks?] at isRead
  | ok reply =>
      cases status : reply.status == 200 with
      | false =>
          rw [blocks_of_status status]
          simp only [Answer.blocks?, status, Bool.false_eq_true, if_false] at isRead
          split at isRead
          · exact Option.some.inj isRead
          · cases isRead
      | true =>
          simp only [Answer.blocks?, status, if_true] at isRead
          cases body : reply.body with
          | none =>
              rw [blocks_of_noBody body]
              rw [body] at isRead
              exact Option.some.inj isRead
          | some parts =>
              rw [blocks_of_body status body]
              simp only [body] at isRead
              split at isRead
              · next isWhole =>
                  have lines : Reply.lines parts = Line.pieces (Reply.octets parts) := by
                    simp [Reply.lines, Line.completed, isWhole]
                  rw [lines]
                  cases whole : Ndjson.ofBody (Reply.octets parts) with
                  | error fault => simp [whole, Except.toOption] at isRead
                  | ok values =>
                      rw [whole] at isRead
                      rw [Ndjson.readable_of_blocks whole]
                      exact Option.some.inj isRead
              · cases isRead

namespace Feed

/-! ## The rest of a body -/

/-- What is left of a body can be read to its end. -/
def Reading.CanEnd (reading : Reading) : Prop :=
  reading.exhausted = true ∨
    (Reply.isWhole reading.rest = true ∧
      Ndjson.Sound
        (Line.completed (reading.splitter.fragment ++ Reply.octets reading.rest) true))

namespace Reading.CanEnd

variable {reading : Reading}

/-- A body that can be read to its end from its beginning is one that can be read to
its end. -/
theorem of_opened
    {reply : Reply} {parts : List (Timed Item)} {cursor : UInt64}
    (status : (reply.status == 200) = true)
    (body : reply.body = some parts)
    (canEnd : Reading.CanEnd ⟨cursor, cursor, .empty, 0, parts, false⟩) :
    (Answer.ok reply).blocks?.isSome = true := by
  rcases canEnd with exhausted | ⟨isWhole, sound⟩
  · cases exhausted
  · have read : Ndjson.ofBody (Reply.octets parts) = .ok _ := Ndjson.Sound.blocks_eq_ok sound
    simp [Answer.blocks?, status, body, isWhole, read, Except.toOption]

/-- At the end of a body, the line that it left unfinished is the last one. -/
theorem of_end
    (clean : reading.splitter.IsClean)
    (atEnd : reading.rest = [])
    (sound : Ndjson.Sound reading.splitter.finish.1.toList) :
    reading.CanEnd := by
  refine .inr ⟨by rw [atEnd]; rfl, ?_⟩
  rw [atEnd, Reply.octets_nil, List.append_nil, Line.completed_fragment clean]
  intro line mem carries
  rw [List.mem_singleton.mp mem] at carries ⊢
  refine sound _ ?_ carries
  unfold Line.Splitter.finish
  split
  · next empty =>
      have nothing : reading.splitter.fragment = [] := by
        simpa [Line.Splitter.fragment] using empty
      rw [nothing] at carries
      cases carries
  · exact List.mem_singleton.mpr rfl

/-- A body can be read to its end if that is true behind its next chunk, and of the
lines that the chunk completes. -/
theorem of_data
    (clean : reading.splitter.IsClean)
    {delay : Duration} {chunk : Bytes} {rest : List (Timed Item)}
    (parts : reading.rest = ⟨delay, .data chunk⟩ :: rest)
    (notExhausted : reading.exhausted = false)
    (sound : Ndjson.Sound (reading.splitter.push chunk).1)
    (canEnd : Reading.CanEnd
      { reading with
        splitter := (reading.splitter.push chunk).2
        index := reading.index + 1
        rest := rest }) :
    reading.CanEnd := by
  rcases canEnd with exhausted | ⟨isWhole, soundBehind⟩
  · exact absurd (notExhausted.symm.trans exhausted) Bool.false_ne_true
  · refine .inr ⟨by rw [parts]; exact isWhole, ?_⟩
    rw [parts, Reply.octets_data, Line.completed_push clean]
    exact sound.append soundBehind

end Reading.CanEnd

/-! ## The latest reply -/

/-- The latest reply has been read to its end, or will have been if what is left of
its body can be read. -/
def Vouches (feed : Feed) (latest : Answer Reply) : Prop :=
  match feed.stage with
  | .finished => True
  | .posting _ _ answer => answer.content = latest
  | .reading _ reading => reading.CanEnd -> latest.blocks?.isSome = true
  | .held _ reading => reading.CanEnd -> latest.blocks?.isSome = true
  | _ => latest.blocks?.isSome = true

section vouches

variable {feed next : Feed} {now : Instant} {cancelled : Bool} {latest : Answer Reply}

theorem vouches_of_finished (finished : feed.stage = .finished) : feed.Vouches latest := by
  simp [Vouches, finished]

theorem vouches_atHead (read : latest.blocks?.isSome = true) :
    (feed.atHead now).Vouches latest := by
  unfold atHead
  split
  · exact vouches_of_finished rfl
  · exact read

theorem vouches_endReply
    (read : latest.blocks?.isSome = true)
    (origin cursor : UInt64) :
    (feed.endReply now origin cursor).Vouches latest := by
  unfold endReply
  split
  · exact vouches_atHead read
  · exact read

theorem vouches_continueReading
    {reading : Reading}
    (vouches : reading.CanEnd -> latest.blocks?.isSome = true) :
    (feed.continueReading now reading).Vouches latest := by
  unfold continueReading
  split
  · next exhausted => exact vouches_endReply (vouches (.inl exhausted)) _ _
  · exact vouches

/-- A group of lines is handed on as a part of a body that can be read, or the loop
ends. -/
theorem Handing.vouches
    {reading : Reading} {lines : List Bytes}
    (handing : feed.Handing now reading lines next)
    (vouches : Ndjson.Sound lines -> reading.CanEnd -> latest.blocks?.isSome = true) :
    next.Vouches latest := by
  cases handing with
  | spoiled fault => exact vouches_of_finished rfl
  | blank part read => exact vouches_continueReading (vouches (.of_portion read))
  | added part read => exact vouches_continueReading (vouches (.of_portion read))
  | filled part read => exact vouches (.of_portion read)
  | discarded part read => exact vouches_continueReading (vouches (.of_portion read))

@[simp] theorem stage_callOff (feed : Feed) (now : Instant) :
    (feed.callOff now).stage = .finished := by
  unfold callOff
  split <;> rfl

/-- Every step that does not post a query goes on only if the latest reply can be
read. -/
theorem Proceeding.vouches
    (proceeding : feed.Proceeding now cancelled next)
    (conserves : feed.Conserves cancelled)
    (posts : next.posts = feed.posts)
    (vouches : feed.Vouches latest) :
    next.Vouches latest := by
  cases proceeding with
  | overreached => exact vouches_of_finished rfl
  | calledOff => exact vouches_of_finished (feed.stage_callOff now)
  | recalled _ turning =>
      simp only [Vouches, turning] at vouches
      exact vouches
  | asked turning =>
      simp only [Vouches, turning] at vouches
      exact vouches
  | learned _ _ _ asking =>
      simp only [Vouches, asking] at vouches
      exact vouches
  | unlearned => exact vouches_of_finished rfl
  | posted tip =>
      rw [posts_post] at posts
      exact absurd (congrArg List.length posts) (by simp)
  | opened tip since answer reply parts posting _ _ content status body =>
      simp only [Vouches, posting] at vouches
      rw [← vouches, content]
      exact fun canEnd => canEnd.of_opened status body
  | bodiless tip since answer reply posting _ _ content status body =>
      simp only [Vouches, posting] at vouches
      refine vouches_endReply ?_ _ _
      simp [← vouches, content, Answer.blocks?, status, body]
  | nothing tip since answer reply posting _ _ content status noContent =>
      simp only [Vouches, posting] at vouches
      refine vouches_atHead ?_
      simp [← vouches, content, Answer.blocks?, status, noContent]
  | refused => exact vouches_of_finished rfl
  | unanswered => exact vouches_of_finished rfl
  | exhausted since reading next stage _ atEnd handing =>
      simp only [Vouches, stage] at vouches
      simp only [Conserves, stage] at conserves
      exact handing.vouches fun sound _ => vouches (.of_end conserves.2.1.clean atEnd sound)
  | received since reading delay chunk rest next stage _ parts _ handing =>
      simp only [Vouches, stage] at vouches
      simp only [Conserves, stage] at conserves
      exact handing.vouches fun sound canEnd =>
        vouches (.of_data conserves.2.1.clean parts conserves.2.2 sound canEnd)
  | broke => exact vouches_of_finished rfl
  | crashed => exact vouches_of_finished rfl
  | admitted ticket reading held =>
      simp only [Vouches, held] at vouches
      exact vouches_continueReading vouches
  | resumed target pausing =>
      simp only [Vouches, pausing] at vouches
      exact vouches

end vouches

/-! ## All replies -/

/-- All replies have been read to their end, but perhaps for the latest. -/
structure Heard (feed : Feed) : Prop where
  earlier : ∀ answer ∈ feed.answers.dropLast, answer.blocks?.isSome = true
  latest : ∀ latest, feed.answers.getLast? = some latest -> feed.Vouches latest

section heard

variable {feed next : Feed} {now : Instant} {cancelled : Bool}

/-- What does not add an answer keeps those that have been heard. -/
theorem Heard.of_answers
    (heard : feed.Heard)
    (answers : next.answers = feed.answers)
    (vouches : ∀ latest, feed.Vouches latest -> next.Vouches latest) :
    next.Heard where
  earlier := by rw [answers]; exact heard.earlier
  latest := by
    rw [answers]
    exact fun latest isLatest => vouches latest (heard.latest latest isLatest)

theorem Working.answers (working : feed.Working now next) : next.answers = feed.answers := by
  rw [Feed.answers, working.posts, working.plan, Feed.answers]

/-- When a query is about to be posted, all replies have been read to their end. -/
theorem Heard.all_of_resolved
    (heard : feed.Heard)
    {tip : BlockRef}
    (resolved : feed.stage = .resolved tip) :
    ∀ answer ∈ feed.answers, answer.blocks?.isSome = true := by
  intro answer mem
  cases isLatest : feed.answers.getLast? with
  | none => simp [List.getLast?_eq_none_iff.mp isLatest] at mem
  | some latest =>
      obtain ⟨earlier, split⟩ := List.getLast?_eq_some_iff.mp isLatest
      rw [split] at mem
      rcases List.mem_append.mp mem with isEarlier | isThis
      · exact heard.earlier answer (by simpa [split] using isEarlier)
      · have vouches := heard.latest latest isLatest
        simp only [Vouches, resolved] at vouches
        rwa [List.mem_singleton.mp isThis]

/-- Every step of the loop hears the replies to their end. -/
theorem Heard.proceed
    (heard : feed.Heard)
    (conserves : feed.Conserves cancelled)
    (proceeding : feed.Proceeding now cancelled next) :
    next.Heard := by
  rcases proceeding.working_or_post with working | ⟨tip, resolved, rfl⟩
  · exact heard.of_answers working.answers fun latest vouches =>
      proceeding.vouches conserves working.posts vouches
  · simp only [Conserves, resolved] at conserves
    have answers := (conserves.1.produced_post now tip).1
    refine ⟨?_, ?_⟩
    · rw [answers, List.dropLast_concat]
      exact heard.all_of_resolved resolved
    · intro latest isLatest
      rw [answers, List.getLast?_concat] at isLatest
      exact Option.some.inj isLatest

theorem Heard.look (heard : feed.Heard) (looking : feed.Looking next) : next.Heard := by
  refine heard.of_answers looking.answers fun latest vouches => ?_
  rwa [Vouches, looking.stage]

end heard

end Feed
end BlockFeed
