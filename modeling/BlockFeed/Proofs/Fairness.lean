import BlockFeed.Proofs.Feed.Dealings
import BlockFeed.Proofs.Fleet

/-!
# Fair schedules

A schedule says what happens to a fleet, one thing after another and without an end. It is
fair to a feed if it forgets neither the loop of the feed nor its consumer nor the clock.
What lasts lasts along a schedule too. To let the loop and the consumer take turns, with a
second in between, is fair.
-/

namespace BlockFeed

namespace Feed

variable {feed next : Feed} {now : Instant}

/-- A consumer does not go by asking. -/
theorem Polling.stays
    {result : Option Yield}
    (polling : feed.Polling now result next)
    (stays : feed.consumer ≠ .gone) :
    next.consumer ≠ .gone := by
  cases polling with
  | silent => exact stays
  | _ => nofun

end Feed

namespace Fleet

/-- The fleet after the first actions of a schedule. -/
def after (fleet : Fleet) (schedule : Nat -> Action) (count : Nat) : Fleet :=
  fleet.run ((List.range count).map schedule)

/-- A schedule on which a feed is not forgotten: again and again its loop may take a step and
its consumer, who never goes, asks for a batch; and time goes on beyond every instant. -/
structure IsFair (fleet : Fleet) (schedule : Nat -> Action) (index : Nat) : Prop where
  proceeds : ∀ count, ∃ later, count ≤ later ∧ schedule later = .proceed index
  polls : ∀ count, ∃ later, count ≤ later ∧ schedule later = .poll index
  stays : ∀ count, schedule count ≠ .leave index
  passes : ∀ count (instant : Instant),
    ∃ later, count ≤ later ∧ instant ≤ (fleet.after schedule later).now

variable {fleet : Fleet} {schedule : Nat -> Action} {index : Nat} {member : Member}

theorem after_succ (fleet : Fleet) (schedule : Nat -> Action) (count : Nat) :
    fleet.after schedule (count + 1) = (fleet.after schedule count).act (schedule count) := by
  simp [after, List.range_succ]

/-- Later on, more of the schedule has been run. -/
theorem after_add (fleet : Fleet) (schedule : Nat -> Action) (count more : Nat) :
    fleet.after schedule (count + more) =
      (fleet.after schedule count).run ((List.range more).map fun step =>
        schedule (count + step)) := by
  rw [after, List.range_add, List.map_append, run_append, List.map_map]
  rfl

/-- What lasts is still true of a feed later on a schedule. -/
theorem Lasting.after
    {motive : Feed -> Instant -> Bool -> Prop}
    (lasting : Lasting motive)
    {count later : Nat}
    (found : (fleet.after schedule count).members[index]? = some member)
    (holds : motive member.feed (fleet.after schedule count).now
      ((fleet.after schedule count).isCancelled member))
    (isLater : count ≤ later) :
    ∃ next, (fleet.after schedule later).members[index]? = some next ∧
      motive next.feed (fleet.after schedule later).now
        ((fleet.after schedule later).isCancelled next) := by
  obtain ⟨more, rfl⟩ := Nat.exists_eq_add_of_le isLater
  obtain ⟨next, isNext, _, stillHolds⟩ := lasting.run found holds
    ((List.range more).map fun step => schedule (count + step))
  rw [after_add]
  exact ⟨next, isNext, stillHolds⟩

/-- A member that is found after a change of one feed was there before, and is as it was unless
it is the changed one. -/
theorem found_update
    {index place : Nat} {change : Feed -> Feed}
    (found : (fleet.update index change).members[place]? = some member) :
    ∃ before, fleet.members[place]? = some before ∧
      (member = before ∨
        (index = place ∧ member = { before with feed := change before.feed })) := by
  rw [getElem?_update] at found
  split at found
  · next same =>
      obtain ⟨before, isBefore, isMember⟩ := Option.map_eq_some_iff.mp found
      exact ⟨before, isBefore, .inr ⟨same, isMember.symm⟩⟩
  · exact ⟨member, found, .inl rfl⟩

/-- As long as it is not told to, the consumer of a feed does not go. -/
theorem consumer_stays
    (stays : ∀ count, schedule count ≠ .leave index)
    {tokens : Tokens} {count : Nat}
    (found : ((create tokens).after schedule count).members[index]? = some member) :
    member.feed.consumer ≠ .gone := by
  -- By induction on the schedule: only the action that is excluded lets the consumer go.
  induction count generalizing member with
  | zero => exact absurd (found.symm.trans List.getElem?_nil) (Option.some_ne_none member)
  | succ count inductionHypothesis =>
      rw [after_succ] at found
      have acting := acting_act ((create tokens).after schedule count) (schedule count)
      have here := stays count
      generalize ((create tokens).after schedule count).act (schedule count) = next at acting found
      generalize schedule count = action at acting here
      cases acting with
      | opened client portal query options =>
          rw [Fleet.opened, List.getElem?_append] at found
          split at found
          · exact inductionHypothesis found
          · rw [List.mem_singleton.mp (List.mem_of_getElem? found)]
            intro isGone
            cases isGone
      | proceeded place stepping next isStepping proceeding =>
          obtain ⟨before, isBefore, rfl | ⟨rfl, rfl⟩⟩ := found_update found
          · exact inductionHypothesis isBefore
          · obtain rfl : stepping = before := Option.some.inj (isStepping.symm.trans isBefore)
            exact proceeding.feeding.consumer ▸ inductionHypothesis isBefore
      | polled place asking result next isAsking polling =>
          obtain ⟨before, isBefore, rfl | ⟨rfl, rfl⟩⟩ := found_update found
          · exact inductionHypothesis isBefore
          · obtain rfl : asking = before := Option.some.inj (isAsking.symm.trans isBefore)
            exact polling.stays (inductionHypothesis isBefore)
      | cancelled => exact inductionHypothesis found
      | left place tokens =>
          obtain ⟨before, isBefore, rfl | ⟨rfl, _⟩⟩ := found_update found
          · exact inductionHypothesis isBefore
          · exact absurd rfl here
      | passed => exact inductionHypothesis found
      | idle => exact inductionHypothesis found

/-! ## Taking turns -/

/-- Something first, and then in turn a step of the loop of a feed, a question of its consumer
and a second that passes. -/
def inTurn (first : Action) (index : Nat) : Nat -> Action
  | 0 => first
  | count + 1 =>
      match count % 3 with
      | 0 => .proceed index
      | 1 => .poll index
      | _ => .pass (Duration.ofSeconds 1)

section inTurn

variable (fleet : Fleet) (first : Action) (index rounds : Nat)

theorem inTurn_proceed : inTurn first index (3 * rounds + 1) = .proceed index := by
  simp [inTurn]

theorem inTurn_poll : inTurn first index (3 * rounds + 2) = .poll index := by
  simp [inTurn]

theorem inTurn_pass : inTurn first index (3 * rounds + 3) = .pass (Duration.ofSeconds 1) := by
  simp [inTurn]

/-- Each round takes a second. -/
theorem now_after_inTurn :
    (fleet.after (inTurn first index) (3 * (rounds + 1) + 1)).now =
      (fleet.after (inTurn first index) (3 * rounds + 1)).now + Duration.ofSeconds 1 := by
  let before := fleet.after (inTurn first index) (3 * rounds + 1)
  have round : fleet.after (inTurn first index) (3 * (rounds + 1) + 1) =
      ((before.act (.proceed index)).act (.poll index)).act
        (.pass (Duration.ofSeconds 1)) := by
    rw [show 3 * (rounds + 1) + 1 = 3 * rounds + 1 + 1 + 1 + 1 by omega, after_succ, after_succ,
      after_succ, inTurn_proceed, inTurn_poll, inTurn_pass]
  calc
    (fleet.after (inTurn first index) (3 * (rounds + 1) + 1)).now
    _ = ((before.act (.proceed index)).act (.poll index)).now + Duration.ofSeconds 1 :=
      congrArg Fleet.now round
    _ = before.now + Duration.ofSeconds 1 := by rw [now_poll, now_proceed]

/-- Doing things in turn is fair, unless the consumer goes at first. -/
theorem fair_inTurn (stays : first ≠ .leave index) :
    fleet.IsFair (inTurn first index) index where
  proceeds count := ⟨3 * count + 1, by omega, inTurn_proceed first index count⟩
  polls count := ⟨3 * count + 2, by omega, inTurn_poll first index count⟩
  stays count := by
    cases count with
    | zero => exact stays
    | succ count =>
        rw [inTurn]
        split <;> nofun
  passes count instant := by
    have rises : ∀ rounds, rounds ≤ (fleet.after (inTurn first index) (3 * rounds + 1)).now := by
      intro rounds
      induction rounds with
      | zero => exact Nat.zero_le _
      | succ rounds inductionHypothesis =>
          rw [now_after_inTurn]
          exact Nat.add_le_add inductionHypothesis (by decide)
    refine ⟨3 * (count + instant) + 1, by omega, ?_⟩
    exact Nat.le_trans (Nat.le_add_left instant count) (rises (count + instant))

end inTurn

end Fleet
end BlockFeed
