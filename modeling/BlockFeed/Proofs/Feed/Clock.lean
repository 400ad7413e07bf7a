import BlockFeed.Proofs.Buffer.Deadlines
import BlockFeed.Proofs.Feed.Dealings
import BlockFeed.Proofs.Fleet

/-!
# Feeds and the end of the clock

A consumer who asks sets a timer of its own and that of the unit, and it gets an overflow
if one of them would fire only after the clock has ended. What is in the buffer was put
there by now. So a consumer that got an overflow has a buffer with a timer that overshoots
by now, and it keeps that timer ever after.
-/

namespace BlockFeed
namespace Feed

/-- The consumer got an overflow, and a timer of its buffer overshoots by now. -/
def Overran (feed : Feed) (now : Instant) : Prop :=
  .overflow ∈ feed.yields ∧ ¬feed.buffer.config.Fits now

/-- Nothing was put into the buffer later than now, and an overflow has its reason. -/
structure Timely (feed : Feed) (now : Instant) : Prop where
  past : ∀ latest, feed.buffer.lastPut = some latest -> latest ≤ now
  reason : .overflow ∈ feed.yields -> ¬feed.buffer.config.Fits now

variable {feed next : Feed} {now : Instant} {cancelled : Bool} {result : Option Yield}

namespace Timely

theorem overran (timely : feed.Timely now) (overflow : .overflow ∈ feed.yields) :
    feed.Overran now :=
  ⟨overflow, timely.reason overflow⟩

/-- The loop only puts something into the buffer now. -/
theorem proceed (timely : feed.Timely now) (feeding : feed.Feeding now next) :
    next.Timely now where
  past := by
    intro latest isLatest
    rcases feeding.buffer.lastPut with same | putNow
    · exact timely.past latest (same.symm.trans isLatest)
    · exact Nat.le_of_eq (Option.some.inj (isLatest.symm.trans putNow))
  reason := by
    rw [feeding.yields, feeding.buffer.config_and_releases.1]
    exact timely.reason

/-- No time passes while the loop takes its step. -/
theorem act_proceed
    {fleet : Fleet}
    (timely : feed.Timely fleet.now)
    (feeding : feed.Feeding fleet.now next)
    (index : Nat) :
    next.Timely (fleet.act (.proceed index)).now := by
  rw [Fleet.now_proceed]
  exact timely.proceed feeding

/-- The consumer gets an overflow only for a timer that overshoots. -/
theorem not_fits_of_overflow
    (timely : feed.Timely now)
    (polling : feed.Polling now result next)
    (overflow : result = some .overflow) :
    ¬feed.buffer.config.Fits now := by
  intro fits
  cases polling with
  | unrepresentable problem _ beyond =>
      exact fits.patience (Instant.overshoots_iff.mpr ⟨problem, beyond⟩)
  | overflowed deadline rest _ taking =>
      cases taking with
      | overflow problem _ beyond =>
          obtain ⟨latest, isLatest, late⟩ := Buffer.idleOvershoots_of_error beyond
          exact fits.idle (late.later (timely.past latest isLatest))
  | _ => cases overflow

theorem poll (timely : feed.Timely now) (polling : feed.Polling now result next) :
    next.Timely now where
  past := by
    intro latest isLatest
    rcases polling.buffer with same | ⟨_, _, taking⟩
    · exact timely.past latest (same ▸ isLatest)
    · rcases taking.lastPut with nothing | same
      · exact absurd (nothing.symm.trans isLatest) nofun
      · exact timely.past latest (same.symm.trans isLatest)
  reason := by
    intro overflow
    rw [polling.yields, List.mem_append] at overflow
    rw [polling.config]
    exact overflow.elim timely.reason fun got =>
      timely.not_fits_of_overflow polling (Option.mem_toList.mp got)

theorem later (timely : feed.Timely now) (duration : Duration) :
    feed.Timely (now + duration) where
  past latest isLatest := Nat.le_trans (timely.past latest isLatest) (Nat.le_add_right _ _)
  reason overflow fits := timely.reason overflow (fits.earlier (Nat.le_add_right _ _))

end Timely

theorem timely_invariant : Fleet.Invariant fun feed now _ => feed.Timely now where
  opened _ _ _ _ _ := ⟨nofun, nofun⟩
  proceeds timely proceeding := timely.proceed proceeding.feeding
  polls timely polling := timely.poll polling
  leaves timely := ⟨timely.past, timely.reason⟩
  calledOff timely := timely
  later duration timely := timely.later duration

end Feed

namespace Fleet

/-- In every run, a consumer that got an overflow has a buffer with a timer that overshoots
by now. -/
theorem overran_of_overflow
    {tokens : Tokens} {actions : List Action} {member : Member}
    (mem : member ∈ ((create tokens).run actions).members)
    (overflow : .overflow ∈ member.feed.yields) :
    member.feed.Overran ((create tokens).run actions).now :=
  (Feed.timely_invariant.run tokens actions member mem).overran overflow

end Fleet
end BlockFeed
