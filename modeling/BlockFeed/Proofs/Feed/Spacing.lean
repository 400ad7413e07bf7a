import BlockFeed.Proofs.Feed.Requests
import Mathlib.Data.List.Chain

/-!
# Queries that are repeated

A feed that posts the same query twice in a row has been at the finalized head in between: the
reply left its cursor where it was, and then the loop pauses. So some time lies between the two
posts, whatever the portal answers, and a feed that ends at the head never repeats a query.
-/

namespace BlockFeed
namespace Feed

/-- The queries that were posted, the first one first, each with the instant of its post. -/
def postings (feed : Feed) : List (Instant × Query) :=
  feed.log.filterMap fun entry => entry.event.post?.map (Prod.mk entry.instant)

variable {feed next : Feed} {now : Instant} {cancelled : Bool} {posting : Instant × Query}

theorem map_snd_postings (feed : Feed) : feed.postings.map Prod.snd = feed.posts := by
  rw [postings, posts, List.map_filterMap]
  congr 1
  funext entry
  cases entry.event.post? <;> rfl

theorem postings_post (feed : Feed) (now : Instant) (tip : BlockRef) :
    (feed.post now false tip).postings =
      feed.postings ++ [(now, feed.plan.query.startingAt feed.cursor)] :=
  List.filterMap_append

/-- Without a request, no query is posted. -/
theorem Notes.postings (notes : feed.Notes next now) : next.postings = feed.postings := by
  refine notes.filterMap_log fun event noRequest => ?_
  cases event with
  | posted => cases noRequest
  | _ => rfl

/-- A step of the loop posts no query, or the one from the cursor on. -/
theorem Proceeding.postings_or_post (proceeding : feed.Proceeding now cancelled next) :
    next.postings = feed.postings ∨
      ∃ tip, feed.stage = .resolved tip ∧ next = feed.post now false tip := by
  rcases proceeding.notes_or_request with notes | ⟨_, _, rfl⟩ | posted
  · exact .inl notes.postings
  · refine .inl (List.filterMap_append.trans ?_)
    exact List.append_nil _
  · exact .inr posted

/-- The consumer posts no query. -/
theorem Polling.postings
    {result : Option Yield}
    (polling : feed.Polling now result next) :
    next.postings = feed.postings := by
  rw [Feed.postings, polling.log, List.filterMap_append]
  cases result <;> exact List.append_nil _

/-! ## At the finalized head -/

/-- Two posts in a row keep the distance: the same query is not posted again before the pause at
the finalized head is over, and not at all by a feed that ends there. -/
def Plan.Spaces (plan : Plan) (first second : Instant × Query) : Prop :=
  first.2.firstBlock = second.2.firstBlock ->
    plan.stopAtHead = false ∧ first.1 + plan.headPoll ≤ second.1

/-- What the loop owes to the latest post. While it has to do with the reply, the query is the
one that was posted. Behind the reply it has another cursor, or it pauses. -/
def Owes (feed : Feed) (now : Instant) (posting : Instant × Query) : Prop :=
  match feed.stage with
  | .posting _ _ _ => posting.2.firstBlock = feed.cursor
  | .reading _ reading => posting.2.firstBlock = reading.origin
  | .held _ reading => posting.2.firstBlock = reading.origin
  | .pausing target => feed.plan.stopAtHead = false ∧ posting.1 + feed.plan.headPoll ≤ target
  | .finished => True
  | _ =>
      posting.2.firstBlock = feed.cursor ->
        feed.plan.stopAtHead = false ∧ posting.1 + feed.plan.headPoll ≤ now

section owes

theorem owes_of_finished (finished : feed.stage = .finished) : feed.Owes now posting := by
  simp [Owes, finished]

theorem owes_atHead (past : posting.1 ≤ now) : (feed.atHead now).Owes now posting := by
  cases stops : feed.plan.stopAtHead with
  | true =>
      rw [atHead, if_pos stops]
      exact owes_of_finished rfl
  | false =>
      rw [atHead, stops, if_neg Bool.false_ne_true]
      exact ⟨stops, Nat.add_le_add_right past _⟩

theorem owes_endReply
    (past : posting.1 ≤ now)
    {origin : UInt64}
    (isOrigin : posting.2.firstBlock = origin)
    (cursor : UInt64) :
    (feed.endReply now origin cursor).Owes now posting := by
  unfold endReply
  split
  · exact owes_atHead past
  · next moved =>
      -- The loop goes on from another block, so that it does not repeat the query.
      intro repeats
      exact absurd (beq_iff_eq.mpr (repeats.symm.trans isOrigin)) moved

theorem owes_continueReading
    (past : posting.1 ≤ now)
    {reading : Reading}
    (isOrigin : posting.2.firstBlock = reading.origin) :
    (feed.continueReading now reading).Owes now posting := by
  unfold continueReading
  split
  · exact owes_endReply past isOrigin _
  · exact isOrigin

theorem Handing.owes
    {reading : Reading} {lines : List Bytes}
    (handing : feed.Handing now reading lines next)
    (past : posting.1 ≤ now)
    (isOrigin : posting.2.firstBlock = reading.origin) :
    next.Owes now posting := by
  cases handing with
  | spoiled => exact owes_of_finished rfl
  | filled => exact isOrigin
  | _ => exact owes_continueReading past isOrigin

/-- Every step that posts no query keeps what the loop owes. -/
theorem Proceeding.owes
    (proceeding : feed.Proceeding now cancelled next)
    (unposted : next.postings = feed.postings)
    (past : posting.1 ≤ now)
    (owes : feed.Owes now posting) :
    next.Owes now posting := by
  cases proceeding with
  | overreached => exact owes_of_finished rfl
  | calledOff => exact owes_of_finished (feed.stage_callOff now)
  | recalled _ stage =>
      simp only [Owes, stage] at owes
      exact owes
  | asked stage =>
      simp only [Owes, stage] at owes
      exact owes
  | learned _ _ _ stage =>
      simp only [Owes, stage] at owes
      exact owes
  | unlearned => exact owes_of_finished rfl
  | posted tip =>
      rw [postings_post] at unposted
      exact absurd (congrArg List.length unposted) (by simp)
  | opened _ _ _ _ _ stage =>
      simp only [Owes, stage] at owes
      exact owes
  | bodiless _ _ _ _ stage =>
      simp only [Owes, stage] at owes
      exact owes_endReply past owes _
  | nothing => exact owes_atHead past
  | refused => exact owes_of_finished rfl
  | unanswered => exact owes_of_finished rfl
  | exhausted _ _ _ stage _ _ handing =>
      simp only [Owes, stage] at owes
      exact handing.owes past owes
  | received _ _ _ _ _ _ stage _ _ _ handing =>
      simp only [Owes, stage] at owes
      exact handing.owes past owes
  | broke => exact owes_of_finished rfl
  | crashed => exact owes_of_finished rfl
  | admitted _ _ stage =>
      simp only [Owes, stage] at owes
      exact owes_continueReading past owes
  | resumed target stage _ reached =>
      simp only [Owes, stage] at owes
      exact fun _ => ⟨owes.1, Nat.le_trans owes.2 reached⟩

/-- The passing of time takes nothing away. -/
theorem Owes.later
    (owes : feed.Owes now posting)
    (duration : Duration) :
    feed.Owes (now + duration) posting := by
  unfold Owes at owes ⊢
  split at owes
  all_goals try exact owes
  exact fun repeats => ⟨(owes repeats).1, Nat.le_trans (owes repeats).2 (Nat.le_add_right _ _)⟩

end owes

/-! ## All posts -/

/-- All posts keep the distance, and the next one will. -/
structure Patient (feed : Feed) (now : Instant) : Prop where
  spaced : feed.postings.IsChain feed.plan.Spaces
  latest : ∀ posting ∈ feed.postings.getLast?, posting.1 ≤ now ∧ feed.Owes now posting

/-- Every step of the loop keeps the distance. -/
theorem Patient.proceed
    (patient : feed.Patient now)
    (proceeding : feed.Proceeding now cancelled next) :
    next.Patient now := by
  rcases proceeding.postings_or_post with unposted | ⟨tip, resolved, rfl⟩
  · refine ⟨?_, ?_⟩
    · rw [unposted, proceeding.feeding.plan]
      exact patient.spaced
    · intro posting isLatest
      rw [unposted] at isLatest
      obtain ⟨past, owes⟩ := patient.latest posting isLatest
      exact ⟨past, proceeding.owes unposted past owes⟩
  · refine ⟨?_, ?_⟩
    · rw [postings_post]
      refine List.isChain_append.mpr ⟨patient.spaced, List.isChain_singleton _, ?_⟩
      intro posting isLatest repeated isRepeated same
      obtain rfl : (now, feed.plan.query.startingAt feed.cursor) = repeated := by
        simpa using isRepeated
      have owes := (patient.latest posting isLatest).2
      simp only [Owes, resolved] at owes
      exact owes same
    · intro posting isLatest
      rw [postings_post, List.getLast?_concat] at isLatest
      obtain rfl := Option.some.inj isLatest
      exact ⟨Nat.le_refl _, Query.firstBlock_startingAt _ _⟩

/-- The consumer leaves the distance as it is. -/
theorem Patient.look
    (patient : feed.Patient now)
    (looking : feed.Looking next)
    (postings : next.postings = feed.postings) :
    next.Patient now := by
  refine ⟨?_, ?_⟩
  · rw [postings, looking.plan]
    exact patient.spaced
  · intro posting isLatest
    rw [postings] at isLatest
    obtain ⟨past, owes⟩ := patient.latest posting isLatest
    refine ⟨past, ?_⟩
    rw [Owes, looking.stage, looking.plan, looking.cursor]
    exact owes

/-- All feeds keep the distance between posts at all times. -/
theorem patient_invariant : Fleet.Invariant fun feed now _ => feed.Patient now where
  opened _ _ _ _ _ := ⟨List.isChain_nil, nofun⟩
  proceeds patient proceeding := patient.proceed proceeding
  polls patient polling := patient.look polling.looking polling.postings
  leaves patient := patient.look looking_leave rfl
  calledOff patient := patient
  later duration patient :=
    ⟨patient.spaced, fun posting isLatest =>
      ⟨Nat.le_trans (patient.latest posting isLatest).1 (Nat.le_add_right _ _),
        (patient.latest posting isLatest).2.later duration⟩⟩

end Feed
end BlockFeed
