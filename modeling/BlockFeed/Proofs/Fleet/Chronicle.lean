import BlockFeed.Proofs.Fleet

/-!
# What the loop of a feed has done

The log of a feed tells when the height was asked for and when the query was posted, but
not when a height was learned or recalled from the cache. The chronicle of a feed tells all
of this. It is read off a run: each deed of the loop is known by where the loop stood
before and after an action.

A property of a feed and its chronicle is true after every run if it is true of every new
feed, whose chronicle is empty, and kept by the steps of its loop, which may add a deed, and
by everything else, which adds nothing.
-/

namespace BlockFeed
namespace Feed

/-- What the loop does on its way to a query. -/
inductive Deed
  /-- Another round was begun. -/
  | turned
  /-- The height was asked for. -/
  | asked
  /-- A height arrived, which is the tip. -/
  | learned (tip : BlockRef)
  /-- The tip was taken from the cache. -/
  | recalled (tip : BlockRef)
  /-- The query was posted for a tip. -/
  | posted (tip : BlockRef)
  deriving DecidableEq

/-- What the loop did when. -/
structure Milestone where
  instant : Instant
  deed : Deed
  deriving DecidableEq

/-- What the loop did to get from one place to another. -/
def Stage.deed? : Stage -> Stage -> Option Deed
  | .turning, .asking _ _ => some .asked
  | .turning, .resolved tip => some (.recalled tip)
  | .asking _ _, .resolved tip => some (.learned tip)
  | .resolved tip, .posting _ _ _ => some (.posted tip)
  | .turning, .turning => none
  | _, .turning => some .turned
  | _, _ => none

@[simp] theorem Stage.deed?_self (stage : Stage) : stage.deed? stage = none := by
  cases stage <;> rfl

/-- What a step of the loop at an instant adds to the chronicle. -/
def added (feed next : Feed) (now : Instant) : List Milestone :=
  ((feed.stage.deed? next.stage).map (Milestone.mk now)).toList

theorem added_of_stage {feed next : Feed} (stage : next.stage = feed.stage) (now : Instant) :
    feed.added next now = [] := by
  simp [added, stage]

end Feed

namespace Fleet

/-- What an action adds to the chronicle of a feed. -/
def added (fleet next : Fleet) (index : Nat) : List Feed.Milestone :=
  match fleet.members[index]?, next.members[index]? with
  | some before, some after => before.feed.added after.feed fleet.now
  | _, _ => []

/-- The deeds of the loop of a feed over a run, the first one first. -/
def chronicle (index : Nat) : Fleet -> List Action -> List Feed.Milestone
  | _, [] => []
  | fleet, action :: rest =>
      fleet.added (fleet.act action) index ++ chronicle index (fleet.act action) rest

/-- What a property of a feed and its chronicle needs to be true at all times. -/
structure Chronicled (motive : Feed -> Instant -> Bool -> List Feed.Milestone -> Prop) :
    Prop where
  opened : ∀ (client : Client) portal query options now,
    motive (client.feed portal query options) now false []
  proceeds : ∀ {feed now cancelled next chronicle}, motive feed now cancelled chronicle ->
    feed.Proceeding now cancelled next ->
    motive next now cancelled (chronicle ++ feed.added next now)
  kept : ∀ chronicle, Kept fun feed now cancelled => motive feed now cancelled chronicle

/-- A member either was there before an action or is a new feed. -/
theorem Acting.origin
    {fleet next : Fleet} {action : Action} {place : Nat} {later : Member}
    (acting : fleet.Acting action next)
    (isLater : next.members[place]? = some later) :
    (∃ member, fleet.members[place]? = some member ∧
      Changing member.feed fleet.now (fleet.isCancelled member) later.feed next.now
        (next.isCancelled later)) ∨
    (fleet.members[place]? = none ∧ ∃ client portal query options,
      later.feed = Client.feed client portal query options) := by
  cases found : fleet.members[place]? with
  | some member =>
      obtain ⟨changed, isChanged, _, changing⟩ := acting.changing found
      obtain rfl : changed = later := Option.some.inj (isChanged.symm.trans isLater)
      exact .inl ⟨member, rfl, changing⟩
  | none =>
      refine .inr ⟨rfl, ?_⟩
      cases acting with
      | opened client portal query options =>
          have bound := List.getElem?_eq_none_iff.mp found
          rw [Fleet.opened, List.getElem?_append_right bound] at isLater
          rw [List.mem_singleton.mp (List.mem_of_getElem? isLater)]
          exact ⟨client, portal, query, options, rfl⟩
      | proceeded => simp [getElem?_update, found] at isLater
      | polled => simp [getElem?_update, found] at isLater
      | left => simp [getElem?_update, found] at isLater
      | cancelled => cases found.symm.trans isLater
      | passed => cases found.symm.trans isLater
      | idle => cases found.symm.trans isLater

namespace Chronicled

variable {motive : Feed -> Instant -> Bool -> List Feed.Milestone -> Prop} {fleet : Fleet}
  {index : Nat}

/-- What is true of a feed and its chronicle is still true after anything has happened. -/
theorem change
    (chronicled : Chronicled motive)
    {feed next : Feed} {now later : Instant} {cancelled nowCancelled : Bool}
    {chronicle : List Feed.Milestone}
    (holds : motive feed now cancelled chronicle)
    (changing : Changing feed now cancelled next later nowCancelled) :
    motive next later nowCancelled (chronicle ++ feed.added next now) := by
  have kept := chronicled.kept chronicle
  have quiet : ∀ {next : Feed}, next.stage = feed.stage ->
      motive next later nowCancelled chronicle ->
      motive next later nowCancelled (chronicle ++ feed.added next now) := by
    intro next stage holds
    rwa [Feed.added_of_stage stage, List.append_nil]
  cases changing with
  | proceeded proceeding => exact chronicled.proceeds holds proceeding
  | polled polling => exact quiet polling.looking.stage (kept.polls holds polling)
  | left stays => exact quiet rfl (kept.leaves (kept.mono holds stays))
  | passed duration => exact quiet rfl (kept.later duration holds)
  | untouched stays => exact quiet rfl (kept.mono holds stays)

/-- A feed has a property with its chronicle, which is empty before the feed is opened. -/
def Holds (motive : Feed -> Instant -> Bool -> List Feed.Milestone -> Prop) (fleet : Fleet)
    (index : Nat) (chronicle : List Feed.Milestone) : Prop :=
  (fleet.members[index]? = none -> chronicle = []) ∧
    ∀ member, fleet.members[index]? = some member ->
      motive member.feed fleet.now (fleet.isCancelled member) chronicle

theorem act
    (chronicled : Chronicled motive)
    {chronicle : List Feed.Milestone}
    (holds : Holds motive fleet index chronicle)
    {action : Action} {next : Fleet}
    (acting : fleet.Acting action next) :
    Holds motive next index (chronicle ++ fleet.added next index) := by
  obtain ⟨nothingYet, holdsNow⟩ := holds
  refine ⟨fun absent => ?_, fun later isLater => ?_⟩
  · have absentBefore : fleet.members[index]? = none := by
      refine Option.eq_none_iff_forall_ne_some.mpr fun member found => ?_
      obtain ⟨later, isLater, _⟩ := acting.changing found
      exact absurd (absent.symm.trans isLater) nofun
    simp [nothingYet absentBefore, Fleet.added, absentBefore]
  · rcases acting.origin isLater with
      ⟨member, found, changing⟩ | ⟨absent, client, portal, query, options, isNew⟩
    · have added : fleet.added next index = member.feed.added later.feed fleet.now := by
        rw [Fleet.added, found, isLater]
      rw [added]
      exact chronicled.change (holdsNow member found) changing
    · have opened := chronicled.opened client portal query options next.now
      rw [nothingYet absent, isNew]
      simpa [Fleet.added, absent] using (chronicled.kept []).mono opened nofun

/-- What is true of every new feed and kept by everything is true of a feed and its
chronicle after every run. -/
theorem run
    (chronicled : Chronicled motive)
    (tokens : Tokens) (actions : List Action)
    {member : Member}
    (found : ((create tokens).run actions).members[index]? = some member) :
    motive member.feed ((create tokens).run actions).now
      (((create tokens).run actions).isCancelled member)
      ((create tokens).chronicle index actions) := by
  have fromAny : ∀ {fleet : Fleet} {earlier : List Feed.Milestone},
      Holds motive fleet index earlier ->
      Holds motive (fleet.run actions) index (earlier ++ fleet.chronicle index actions) := by
    clear found
    induction actions with
    | nil =>
        intro fleet earlier holds
        rwa [chronicle, List.append_nil]
    | cons action rest inductionHypothesis =>
        intro fleet earlier holds
        rw [run_cons, chronicle, ← List.append_assoc]
        exact inductionHypothesis (chronicled.act holds (acting_act fleet action))
  have atFirst : Holds motive (create tokens) index [] :=
    ⟨fun _ => rfl, fun member isMember => by simp [create] at isMember⟩
  exact (fromAny atFirst).2 member found

end Chronicled
end Fleet
end BlockFeed
