import BlockFeed.Proofs.Feed.Frames

/-!
# What a feed has to do with its portal

The loop is the only one that deals with the portal, and each of its steps records
what it does: it asks for the height, posts the query, or only receives parts of a
body and gives it back.
-/

namespace BlockFeed
namespace Feed

/-- Whether something is asked of the portal. -/
def Event.isRequest : Event -> Bool
  | .asked _ => true
  | .posted _ _ => true
  | _ => false

/-- What has happened between the feed and its portal. -/
def dealings (feed : Feed) : List Entry :=
  feed.log.filter (·.event.isOfPortal)

/-- A feed has recorded some events at an instant, none of which is a request, and
nothing that the consumer got. -/
def Notes (feed next : Feed) (now : Instant) : Prop :=
  ∃ events : List Event, next.log = feed.log ++ events.map (Entry.mk now) ∧
    ∀ event ∈ events, event.isRequest = false ∧ event.isOfPortal = true

variable {feed next last : Feed} {now : Instant} {cancelled : Bool}

namespace Notes

theorem of_log (log : next.log = feed.log) : feed.Notes next now :=
  ⟨[], by simpa using log, nofun⟩

theorem record
    {event : Event}
    (noRequest : event.isRequest = false)
    (ofPortal : event.isOfPortal = true) :
    feed.Notes (feed.record now event) now :=
  ⟨[event], rfl, by simpa using ⟨noRequest, ofPortal⟩⟩

theorem trans (first : feed.Notes next now) (second : next.Notes last now) :
    feed.Notes last now := by
  obtain ⟨events, log, quiet⟩ := first
  obtain ⟨more, logThen, quietThen⟩ := second
  refine ⟨events ++ more, by simp [logThen, log], ?_⟩
  intro event mem
  rcases List.mem_append.mp mem with earlier | later
  · exact quiet event earlier
  · exact quietThen event later

/-- Another feed with the same log has noted the same. -/
theorem congr (notes : feed.Notes next now) (log : last.log = next.log) :
    feed.Notes last now :=
  notes.trans (.of_log log)

/-- Whatever is found only at requests is what was found before. -/
theorem filterMap_log
    (notes : feed.Notes next now)
    {find : Entry -> Option β}
    (onlyAtRequests : ∀ event : Event, event.isRequest = false -> find ⟨now, event⟩ = none) :
    next.log.filterMap find = feed.log.filterMap find := by
  obtain ⟨events, log, quiet⟩ := notes
  have nothing : (events.map (Entry.mk now)).filterMap find = [] := by
    refine List.filterMap_eq_nil_iff.mpr fun entry mem => ?_
    obtain ⟨event, isEvent, rfl⟩ := List.mem_map.mp mem
    exact onlyAtRequests event (quiet event isEvent).1
  rw [log, List.filterMap_append, nothing, List.append_nil]

end Notes

/-! ## The loop -/

section log

variable (feed : Feed) (now : Instant)

@[simp] theorem log_atHead : (feed.atHead now).log = feed.log := by
  unfold atHead
  split <;> rfl

@[simp] theorem log_endReply (origin cursor : UInt64) :
    (feed.endReply now origin cursor).log = feed.log := by
  unfold endReply
  split
  · exact log_atHead _ now
  · rfl

@[simp] theorem log_continueReading (reading : Reading) :
    (feed.continueReading now reading).log = feed.log := by
  unfold continueReading
  split
  · exact feed.log_endReply now _ _
  · rfl

/-- A body in hand is given back when the feed is called off. -/
theorem log_callOff :
    (feed.callOff now).log =
      feed.log ++ if feed.stage.holdsBody then [⟨now, .released false⟩] else [] := by
  unfold callOff
  split
  · rfl
  · exact (List.append_nil _).symm

theorem notes_abandon : feed.Notes (feed.abandon now) now :=
  .record rfl rfl

theorem notes_decline (reply : Reply) : feed.Notes (feed.decline now reply) now := by
  unfold decline
  split
  · exact feed.notes_abandon now
  · exact .of_log rfl

end log

/-- Handing on a group of lines asks for nothing. -/
theorem Handing.notes
    {reading : Reading} {lines : List Bytes}
    (handing : feed.Handing now reading lines next) :
    feed.Notes next now := by
  cases handing with
  | spoiled fault =>
      split
      · exact .of_log rfl
      · exact (feed.notes_abandon now).congr rfl
  | blank => exact .of_log (feed.log_continueReading now reading)
  | added => exact .of_log (log_continueReading _ now _)
  | filled => exact .of_log rfl
  | discarded => exact .of_log (feed.log_continueReading now _)

/-- A step of the loop asks for the height, posts the query, or asks for nothing. -/
theorem Proceeding.notes_or_request (proceeding : feed.Proceeding now cancelled next) :
    feed.Notes next now ∨
      (feed.stage = .turning ∧ feed.plan.query.reaches feed.cursor = true ∧
        next = feed.askHeight now false) ∨
      ∃ tip, feed.stage = .resolved tip ∧ next = feed.post now false tip := by
  cases proceeding with
  | asked turning reaches => exact .inr (.inl ⟨turning, reaches, rfl⟩)
  | posted tip resolved => exact .inr (.inr ⟨tip, resolved, rfl⟩)
  | calledOff =>
      refine .inl ?_
      unfold callOff
      split
      · exact (feed.notes_abandon now).congr rfl
      · exact .of_log rfl
  | bodiless tip => exact .inl (.of_log (log_endReply _ now _ _))
  | nothing _ _ _ reply => exact .inl ((feed.notes_decline now reply).congr (log_atHead _ now))
  | refused _ _ _ reply => exact .inl ((feed.notes_decline now reply).congr rfl)
  | exhausted _ _ _ _ _ _ handing =>
      exact .inl ((Notes.record rfl rfl).trans handing.notes)
  | received _ _ _ _ _ _ _ _ _ _ handing =>
      exact .inl ((Notes.record rfl rfl).trans handing.notes)
  | broke =>
      exact .inl (((Notes.record rfl rfl).trans (notes_abandon _ now)).congr rfl)
  | crashed => exact .inl ((feed.notes_abandon now).congr rfl)
  | admitted _ reading => exact .inl (.of_log (feed.log_continueReading now reading))
  | _ => exact .inl (.of_log rfl)

/-- Once the loop has finished, it takes no step. -/
theorem Proceeding.unfinished (proceeding : feed.Proceeding now cancelled next) :
    feed.stage ≠ .finished := by
  cases proceeding <;> simp_all

/-! ## The consumer -/

theorem dealings_handedOut
    (result : Yield) (consumer : Consumer) (buffer : Buffer Block) :
    (feed.handedOut now result consumer buffer).dealings = feed.dealings := by
  simp [handedOut, record, dealings, Event.isOfPortal]

/-- The consumer does not deal with the portal. -/
theorem Polling.dealings
    {result : Option Yield}
    (polling : feed.Polling now result next) :
    next.dealings = feed.dealings := by
  cases polling with
  | waited => rfl
  | silent => rfl
  | _ => exact dealings_handedOut _ _ _

/-- What the consumer records is nothing but what it got. -/
theorem Polling.log
    {result : Option Yield}
    (polling : feed.Polling now result next) :
    next.log = feed.log ++ result.toList.map fun given => ⟨now, .yielded given⟩ := by
  cases polling with
  | waited => exact (List.append_nil _).symm
  | silent => exact (List.append_nil _).symm
  | _ => rfl

/-- What the consumer got is recorded. -/
theorem Polling.yields
    {result : Option Yield}
    (polling : feed.Polling now result next) :
    next.yields = feed.yields ++ result.toList := by
  have got : (result.toList.map fun given => (⟨now, .yielded given⟩ : Entry)).filterMap
      (·.event.yield?) = result.toList := by
    cases result <;> rfl
  rw [Feed.yields, polling.log, List.filterMap_append, got, Feed.yields]

end Feed
end BlockFeed
