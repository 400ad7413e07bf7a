import BlockFeed.Fleet
import BlockFeed.Proofs.Cancellation
import BlockFeed.Proofs.Feed.Frames

/-!
# What is true of every feed of a fleet

Feeds share nothing but the clock and the registry of tokens. A property of
feeds that may depend on the time and on whether the feed has been called off
is therefore true of all feeds at all times if it is true of every new feed and
kept by the steps of its loop, by its consumer, by the call that calls it off
and by the passing of time. What is only kept is still true of a feed later on if
it is true of it once. Once a feed has been called off, it stays so.
-/

namespace BlockFeed
namespace Fleet

/-! ## Steps of a fleet -/

/-- The plan of the feed that an action opens. -/
def Action.plan? : Action -> Option Feed.Plan
  | .opened client portal query options => some (client.plan portal query options)
  | _ => none

/-- What an action may do to a fleet. -/
inductive Acting (fleet : Fleet) : Action -> Fleet -> Prop
  | opened (client : Client) (portal : Portal) (query : Query) (options : StreamOptions) :
      Acting fleet (.opened client portal query options)
        (fleet.opened client portal query options)
  | proceeded (index : Nat) (member : Member) (next : Feed) :
      fleet.members[index]? = some member ->
      member.feed.Proceeding fleet.now (fleet.isCancelled member) next ->
      Acting fleet (.proceed index) (fleet.update index fun _ => next)
  | polled (index : Nat) (member : Member) (result : Option Feed.Yield) (next : Feed) :
      fleet.members[index]? = some member ->
      member.feed.Polling fleet.now result next ->
      Acting fleet (.poll index) (fleet.update index fun _ => next)
  | cancelled (action : Action) (tokens : Tokens) :
      action.plan? = none ->
      fleet.tokens.Grows tokens ->
      Acting fleet action { fleet with tokens := tokens }
  | left (index : Nat) (tokens : Tokens) :
      fleet.tokens.Grows tokens ->
      Acting fleet (.leave index) (update { fleet with tokens := tokens } index Feed.leave)
  | passed (duration : Duration) :
      Acting fleet (.pass duration) { fleet with now := fleet.now + duration }
  | idle (action : Action) :
      action.plan? = none ->
      Acting fleet action fleet

/-- Calling a feed off only adds to the cancelled tokens. -/
theorem cancel_eq (fleet : Fleet) (index : Nat) :
    ∃ tokens, fleet.tokens.Grows tokens ∧
      fleet.cancel index = { fleet with tokens := tokens } := by
  unfold cancel
  split
  · exact ⟨_, Tokens.grows_cancel _ _, rfl⟩
  · exact ⟨fleet.tokens, Tokens.grows_refl _, rfl⟩

/-- Every action does one of these things. -/
theorem acting_act (fleet : Fleet) (action : Action) : fleet.Acting action (fleet.act action) := by
  cases action with
  | opened client portal query options => exact .opened client portal query options
  | proceed index =>
      cases found : fleet.members[index]? with
      | none =>
          simp only [act, proceed?, found, Option.getD_none]
          exact .idle _ rfl
      | some member =>
          cases proceeds : member.feed.proceed? fleet.now (fleet.isCancelled member) with
          | none =>
              simp only [act, proceed?, found, proceeds, Option.map_none, Option.getD_none]
              exact .idle _ rfl
          | some next =>
              simp only [act, proceed?, found, proceeds, Option.map_some, Option.getD_some]
              exact .proceeded index member next found (Feed.proceeding_of_proceed proceeds)
  | poll index =>
      cases found : fleet.members[index]? with
      | none =>
          simp only [act, poll, found]
          exact .idle _ rfl
      | some member =>
          simp only [act, poll, found]
          exact .polled index member _ _ found (Feed.polling_poll member.feed fleet.now)
  | cancel index =>
      obtain ⟨tokens, grows, cancelled⟩ := fleet.cancel_eq index
      rw [act, cancelled]
      exact .cancelled _ tokens rfl grows
  | cancelToken token => exact .cancelled _ _ rfl (Tokens.grows_cancel _ _)
  | leave index =>
      obtain ⟨tokens, grows, cancelled⟩ := fleet.cancel_eq index
      rw [act, leave, cancelled]
      exact .left index tokens grows
  | pass duration => exact .passed duration

/-! ## Invariants of feeds -/

/-- What a property of a feed needs to stay true, whatever the consumer, the caller and the
clock do. -/
structure Kept (motive : Feed -> Instant -> Bool -> Prop) : Prop where
  polls : ∀ {feed now cancelled result next}, motive feed now cancelled ->
    feed.Polling now result next -> motive next now cancelled
  leaves : ∀ {feed now cancelled}, motive feed now cancelled ->
    motive feed.leave now cancelled
  calledOff : ∀ {feed now}, motive feed now false -> motive feed now true
  later : ∀ {feed now cancelled} duration, motive feed now cancelled ->
    motive feed (now + duration) cancelled

/-- What a property of a feed needs to stay true, whatever happens. -/
structure Lasting (motive : Feed -> Instant -> Bool -> Prop) : Prop extends Kept motive where
  proceeds : ∀ {feed now cancelled next}, motive feed now cancelled ->
    feed.Proceeding now cancelled next -> motive next now cancelled

/-- What a property of a feed needs to stay true until its loop brings another one about. -/
structure Until (motive outcome : Feed -> Instant -> Bool -> Prop) : Prop extends
    Kept motive where
  proceeds : ∀ {feed now cancelled next}, motive feed now cancelled ->
    feed.Proceeding now cancelled next -> motive next now cancelled ∨ outcome next now cancelled

/-- What a property of feeds needs to be true of every feed at all times. -/
structure Invariant (motive : Feed -> Instant -> Bool -> Prop) : Prop extends
    Lasting motive where
  opened : ∀ (client : Client) portal query options now,
    motive (client.feed portal query options) now false

/-- A property is true of every feed of a fleet. -/
def AllFeeds (fleet : Fleet) (motive : Feed -> Instant -> Bool -> Prop) : Prop :=
  ∀ member ∈ fleet.members, motive member.feed fleet.now (fleet.isCancelled member)

/-- After a change of one feed, a member is as before or is the changed one. -/
theorem mem_update
    {fleet : Fleet} {index : Nat} {change : Feed -> Feed} {member : Member}
    (mem : member ∈ (fleet.update index change).members) :
    member ∈ fleet.members ∨
      ∃ before, fleet.members[index]? = some before ∧
        member = { before with feed := change before.feed } := by
  obtain ⟨place, found⟩ := List.mem_iff_getElem?.mp mem
  simp only [update, List.getElem?_modify] at found
  by_cases isThis : index = place
  · subst isThis
    simp only [if_true, Option.map_eq_map, Option.map_eq_some_iff] at found
    obtain ⟨before, isBefore, isMember⟩ := found
    exact .inr ⟨before, isBefore, isMember.symm⟩
  · simp only [isThis, if_false, id_map'] at found
    exact .inl (List.mem_iff_getElem?.mpr ⟨place, found⟩)

/-- The members of a fleet after a change of one feed. -/
theorem getElem?_update (fleet : Fleet) (index place : Nat) (change : Feed -> Feed) :
    (fleet.update index change).members[place]? =
      if index = place then
        fleet.members[place]?.map fun member => { member with feed := change member.feed }
      else fleet.members[place]? := by
  simp only [update, List.getElem?_modify]
  split <;> simp

/-- What is seen of the only feed of a fleet is seen of every member that is found. -/
theorem observe_eq
    {fleet : Fleet} {index : Nat} {member : Member} {observe : Member -> α} {seen : α}
    (shape : fleet.members.map observe = [seen])
    (found : fleet.members[index]? = some member) :
    observe member = seen := by
  have mem : observe member ∈ fleet.members.map observe :=
    List.mem_map_of_mem (List.mem_of_getElem? found)
  rw [shape] at mem
  exact List.mem_singleton.mp mem

/-- What is seen of all feeds is seen of the only one there is. -/
theorem exists_of_observed
    {fleet : Fleet} {observe : Member -> α} {seen : α}
    (shape : fleet.members.map observe = [seen]) :
    ∃ member, fleet.members[0]? = some member ∧ observe member = seen := by
  obtain ⟨member, only, isSeen⟩ := List.map_eq_singleton_iff.mp shape
  exact ⟨member, by rw [only]; rfl, isSeen⟩

/-- What an action may do to a feed and its surroundings. -/
inductive Changing (feed : Feed) (now : Instant) (cancelled : Bool) :
    Feed -> Instant -> Bool -> Prop
  | proceeded {next : Feed} :
      feed.Proceeding now cancelled next ->
      Changing feed now cancelled next now cancelled
  | polled {result : Option Feed.Yield} {next : Feed} :
      feed.Polling now result next ->
      Changing feed now cancelled next now cancelled
  | left {nowCancelled : Bool} :
      (cancelled = true -> nowCancelled = true) ->
      Changing feed now cancelled feed.leave now nowCancelled
  | passed (duration : Duration) :
      Changing feed now cancelled feed (now + duration) cancelled
  | untouched {nowCancelled : Bool} :
      (cancelled = true -> nowCancelled = true) ->
      Changing feed now cancelled feed now nowCancelled

/-- What an action does to a member is one of these things. -/
theorem Acting.changing
    {fleet next : Fleet} {action : Action} {place : Nat} {member : Member}
    (acting : fleet.Acting action next)
    (found : fleet.members[place]? = some member) :
    ∃ later, next.members[place]? = some later ∧ later.token = member.token ∧
      Changing member.feed fleet.now (fleet.isCancelled member) later.feed next.now
        (next.isCancelled later) := by
  cases acting with
  | opened client portal query options =>
      obtain ⟨bound, _⟩ := List.getElem?_eq_some_iff.mp found
      refine ⟨member, ?_, rfl, .untouched (Tokens.grows_create _ _).isCancelled⟩
      rw [Fleet.opened, List.getElem?_append_left bound, found]
  | proceeded index stepping following isStepping proceeding =>
      rw [getElem?_update, found]
      split
      · next same =>
          obtain rfl : member = stepping := Option.some.inj (found.symm.trans (same ▸ isStepping))
          exact ⟨_, rfl, rfl, .proceeded proceeding⟩
      · exact ⟨member, rfl, rfl, .untouched id⟩
  | polled index asking result following isAsking polling =>
      rw [getElem?_update, found]
      split
      · next same =>
          obtain rfl : member = asking := Option.some.inj (found.symm.trans (same ▸ isAsking))
          exact ⟨_, rfl, rfl, .polled polling⟩
      · exact ⟨member, rfl, rfl, .untouched id⟩
  | cancelled _ tokens _ grows => exact ⟨member, found, rfl, .untouched grows.isCancelled⟩
  | left index tokens grows =>
      rw [getElem?_update, found]
      split
      · exact ⟨_, rfl, rfl, .left grows.isCancelled⟩
      · exact ⟨member, rfl, rfl, .untouched grows.isCancelled⟩
  | passed duration => exact ⟨member, found, rfl, .passed duration⟩
  | idle => exact ⟨member, found, rfl, .untouched id⟩

/-- Being called off takes nothing away. -/
theorem Kept.mono
    {motive : Feed -> Instant -> Bool -> Prop}
    (kept : Kept motive)
    {feed : Feed} {now : Instant} {cancelled nowCancelled : Bool}
    (holds : motive feed now cancelled)
    (stays : cancelled = true -> nowCancelled = true) :
    motive feed now nowCancelled := by
  cases cancelled with
  | true => rwa [stays rfl]
  | false =>
      cases nowCancelled with
      | true => exact kept.calledOff holds
      | false => exact holds

namespace Lasting

variable {motive : Feed -> Instant -> Bool -> Prop} {fleet : Fleet}

/-- What lasts is still true of a feed after anything has happened to it. -/
theorem change
    (lasting : Lasting motive)
    {feed next : Feed} {now later : Instant} {cancelled nowCancelled : Bool}
    (holds : motive feed now cancelled)
    (changing : Changing feed now cancelled next later nowCancelled) :
    motive next later nowCancelled := by
  cases changing with
  | proceeded proceeding => exact lasting.proceeds holds proceeding
  | polled polling => exact lasting.polls holds polling
  | left stays => exact lasting.leaves (lasting.mono holds stays)
  | passed duration => exact lasting.later duration holds
  | untouched stays => exact lasting.mono holds stays

/-- What lasts is still true of a feed after anything has happened to the fleet. -/
theorem act
    (lasting : Lasting motive)
    {place : Nat} {member : Member}
    (found : fleet.members[place]? = some member)
    (holds : motive member.feed fleet.now (fleet.isCancelled member))
    {action : Action} {next : Fleet}
    (acting : fleet.Acting action next) :
    ∃ later, next.members[place]? = some later ∧ later.token = member.token ∧
      motive later.feed next.now (next.isCancelled later) := by
  obtain ⟨later, isLater, token, changing⟩ := acting.changing found
  exact ⟨later, isLater, token, lasting.change holds changing⟩

/-- What lasts is still true of a feed after every run. -/
theorem run
    (lasting : Lasting motive)
    {place : Nat} {member : Member}
    (found : fleet.members[place]? = some member)
    (holds : motive member.feed fleet.now (fleet.isCancelled member))
    (actions : List Action) :
    ∃ later, (fleet.run actions).members[place]? = some later ∧ later.token = member.token ∧
      motive later.feed (fleet.run actions).now ((fleet.run actions).isCancelled later) := by
  induction actions generalizing fleet member with
  | nil => exact ⟨member, found, rfl, holds⟩
  | cons action rest inductionHypothesis =>
      obtain ⟨next, isNext, sameToken, stillHolds⟩ :=
        lasting.act found holds (acting_act fleet action)
      obtain ⟨later, isLater, token, holdsLater⟩ := inductionHypothesis isNext stillHolds
      exact ⟨later, isLater, token.trans sameToken, holdsLater⟩

/-- Two things that last do so together. -/
theorem and {other : Feed -> Instant -> Bool -> Prop}
    (lasting : Lasting motive) (otherLasting : Lasting other) :
    Lasting fun feed now cancelled =>
      motive feed now cancelled ∧ other feed now cancelled where
  proceeds holds proceeding :=
    ⟨lasting.proceeds holds.1 proceeding, otherLasting.proceeds holds.2 proceeding⟩
  polls holds polling := ⟨lasting.polls holds.1 polling, otherLasting.polls holds.2 polling⟩
  leaves holds := ⟨lasting.leaves holds.1, otherLasting.leaves holds.2⟩
  calledOff holds := ⟨lasting.calledOff holds.1, otherLasting.calledOff holds.2⟩
  later duration holds := ⟨lasting.later duration holds.1, otherLasting.later duration holds.2⟩

end Lasting

namespace Until

variable {motive outcome : Feed -> Instant -> Bool -> Prop} {fleet : Fleet}

/-- What is true until something comes is still true, or that has come. -/
theorem change
    (ends : Until motive outcome)
    {feed next : Feed} {now later : Instant} {cancelled nowCancelled : Bool}
    (holds : motive feed now cancelled)
    (changing : Changing feed now cancelled next later nowCancelled) :
    motive next later nowCancelled ∨ outcome next later nowCancelled := by
  cases changing with
  | proceeded proceeding => exact ends.proceeds holds proceeding
  | polled polling => exact .inl (ends.polls holds polling)
  | left stays => exact .inl (ends.leaves (ends.mono holds stays))
  | passed duration => exact .inl (ends.later duration holds)
  | untouched stays => exact .inl (ends.mono holds stays)

/-- What is true until something comes is still true of a feed after a run, or that came at
a moment of it. -/
theorem run
    (ends : Until motive outcome)
    {place : Nat} {member : Member}
    (found : fleet.members[place]? = some member)
    (holds : motive member.feed fleet.now (fleet.isCancelled member))
    (actions : List Action) :
    (∃ later, (fleet.run actions).members[place]? = some later ∧
      motive later.feed (fleet.run actions).now ((fleet.run actions).isCancelled later)) ∨
    ∃ first rest later, actions = first ++ rest ∧
      (fleet.run first).members[place]? = some later ∧
      outcome later.feed (fleet.run first).now ((fleet.run first).isCancelled later) := by
  induction actions generalizing fleet member with
  | nil => exact .inl ⟨member, found, holds⟩
  | cons action rest inductionHypothesis =>
      obtain ⟨next, isNext, _, changing⟩ := (acting_act fleet action).changing found
      rcases ends.change holds changing with still | comes
      · rcases inductionHypothesis isNext still with ⟨later, isLater, holdsLater⟩ | moment
        · exact .inl ⟨later, isLater, holdsLater⟩
        · obtain ⟨first, behind, later, split, isLater, comes⟩ := moment
          exact .inr ⟨action :: first, behind, later, by rw [split]; rfl, isLater, comes⟩
      · exact .inr ⟨[action], rest, next, rfl, isNext, comes⟩

end Until

/-- The loop of a feed takes the step that it can take. -/
theorem act_proceed
    {fleet : Fleet} {index : Nat} {member : Member} {next : Feed}
    (found : fleet.members[index]? = some member)
    (proceeds : member.feed.proceed? fleet.now (fleet.isCancelled member) = some next) :
    fleet.act (.proceed index) = fleet.update index fun _ => next := by
  simp [act, proceed?, found, proceeds]

/-- The consumer of a feed asks for a batch. -/
theorem act_poll
    {fleet : Fleet} {index : Nat} {member : Member}
    (found : fleet.members[index]? = some member) :
    fleet.act (.poll index) =
      fleet.update index fun _ => (member.feed.poll fleet.now).2 := by
  simp [act, poll, found]

theorem now_proceed (fleet : Fleet) (index : Nat) :
    (fleet.act (.proceed index)).now = fleet.now := by
  rw [act, proceed?]
  split
  · next member _ =>
      cases member.feed.proceed? fleet.now (fleet.isCancelled member) <;> rfl
  · rfl

theorem now_poll (fleet : Fleet) (index : Nat) :
    (fleet.act (.poll index)).now = fleet.now := by
  rw [act, poll]
  split <;> rfl

namespace Invariant

variable {motive : Feed -> Instant -> Bool -> Prop} {fleet : Fleet}

/-- A larger registry takes nothing away. -/
theorem withTokens
    (invariant : Invariant motive)
    (all : fleet.AllFeeds motive)
    {tokens : Tokens}
    (grows : fleet.tokens.Grows tokens) :
    AllFeeds { fleet with tokens := tokens } motive := by
  intro member mem
  exact invariant.mono (all member mem) grows.isCancelled

/-- A change of one feed that keeps the property keeps it for all. -/
theorem update
    (all : fleet.AllFeeds motive)
    {index : Nat} {change : Feed -> Feed}
    (kept : ∀ member, fleet.members[index]? = some member ->
      motive (change member.feed) fleet.now (fleet.isCancelled member)) :
    (fleet.update index change).AllFeeds motive := by
  intro member mem
  rcases mem_update mem with isOld | ⟨before, isBefore, rfl⟩
  · exact all member isOld
  · exact kept before isBefore

theorem act
    (invariant : Invariant motive)
    (all : fleet.AllFeeds motive)
    {action : Action} {next : Fleet}
    (acting : fleet.Acting action next) :
    next.AllFeeds motive := by
  cases acting with
  | opened client portal query options =>
      intro member mem
      rcases List.mem_append.mp mem with isOld | isNew
      · exact invariant.mono (all member isOld) (Tokens.grows_create _ _).isCancelled
      · rw [List.mem_singleton.mp isNew]
        exact invariant.mono (invariant.opened client portal query options fleet.now) nofun
  | proceeded index member next found proceeding =>
      refine update all ?_
      intro before isBefore
      obtain rfl : member = before := Option.some.inj (found.symm.trans isBefore)
      exact invariant.proceeds (all member (List.mem_of_getElem? found)) proceeding
  | polled index member result next found polling =>
      refine update all ?_
      intro before isBefore
      obtain rfl : member = before := Option.some.inj (found.symm.trans isBefore)
      exact invariant.polls (all member (List.mem_of_getElem? found)) polling
  | cancelled _ tokens _ grows => exact invariant.withTokens all grows
  | left index tokens grows =>
      have calledOff := invariant.withTokens all grows
      refine update calledOff ?_
      intro member isMember
      exact invariant.leaves (calledOff member (List.mem_of_getElem? isMember))
  | passed duration =>
      intro member mem
      exact invariant.later duration (all member mem)
  | idle => exact all

/-- An invariant is true of all feeds after every run. -/
theorem run (invariant : Invariant motive) (tokens : Tokens) (actions : List Action) :
    ((create tokens).run actions).AllFeeds motive := by
  have fromAny : ∀ {fleet : Fleet}, fleet.AllFeeds motive ->
      (fleet.run actions).AllFeeds motive := by
    induction actions with
    | nil => exact fun all => all
    | cons action rest inductionHypothesis =>
        intro fleet all
        exact inductionHypothesis (invariant.act all (acting_act fleet action))
  exact fromAny (fun member mem => by simp [create] at mem)

end Invariant

/-! ## What does not change -/

/-- The feed that an action opens. -/
def Action.feed? : Action -> Option Feed
  | .opened client portal query options => some (client.feed portal query options)
  | _ => none

theorem Action.feed?_of_plan? {action : Action} (noPlan : action.plan? = none) :
    action.feed? = none := by
  cases action with
  | opened => cases noPlan
  | _ => rfl

/-- What can be read off a feed and never changes in its life. -/
structure Constant (observe : Feed -> α) : Prop where
  proceeds : ∀ {feed now cancelled next}, feed.Proceeding now cancelled next ->
    observe next = observe feed
  polls : ∀ {feed now result next}, feed.Polling now result next ->
    observe next = observe feed
  leaves : ∀ feed, observe feed.leave = observe feed

namespace Constant

variable {observe : Feed -> α}

/-- A change of one feed that keeps what is read off it keeps what is read off all. -/
theorem update
    {fleet : Fleet} {index : Nat} {change : Feed -> Feed}
    (kept : ∀ member, fleet.members[index]? = some member ->
      observe (change member.feed) = observe member.feed) :
    (fleet.update index change).members.map (observe ·.feed) =
      fleet.members.map (observe ·.feed) := by
  refine List.ext_getElem? fun place => ?_
  simp only [Fleet.update, List.getElem?_map, List.getElem?_modify]
  by_cases isThis : index = place
  · cases found : fleet.members[place]? with
    | none => rfl
    | some member => simp [isThis, kept member (isThis ▸ found)]
  · simp [isThis]

/-- Only opening a feed adds to what is read off all feeds. -/
theorem act
    (constant : Constant observe)
    {fleet next : Fleet} {action : Action}
    (acting : fleet.Acting action next) :
    next.members.map (observe ·.feed) =
      fleet.members.map (observe ·.feed) ++ (action.feed?.map observe).toList := by
  cases acting with
  | opened client portal query options =>
      rw [Fleet.opened, List.map_append]
      rfl
  | proceeded index member next found proceeding =>
      refine Eq.trans (update ?_) (List.append_nil _).symm
      intro before isBefore
      obtain rfl : member = before := Option.some.inj (found.symm.trans isBefore)
      exact constant.proceeds proceeding
  | polled index member result next found polling =>
      refine Eq.trans (update ?_) (List.append_nil _).symm
      intro before isBefore
      obtain rfl : member = before := Option.some.inj (found.symm.trans isBefore)
      exact constant.polls polling
  | left =>
      exact (update fun member _ => constant.leaves member.feed).trans
        (List.append_nil _).symm
  | passed => exact (List.append_nil _).symm
  | cancelled _ _ noPlan =>
      rw [Action.feed?_of_plan? noPlan]
      exact (List.append_nil _).symm
  | idle _ noPlan =>
      rw [Action.feed?_of_plan? noPlan]
      exact (List.append_nil _).symm

/-- What never changes is read off the feeds that were opened. -/
theorem run (constant : Constant observe) (tokens : Tokens) (actions : List Action) :
    ((create tokens).run actions).members.map (observe ·.feed) =
      (actions.filterMap Action.feed?).map observe := by
  have fromAny : ∀ fleet : Fleet,
      (fleet.run actions).members.map (observe ·.feed) =
        fleet.members.map (observe ·.feed) ++ (actions.filterMap Action.feed?).map observe := by
    induction actions with
    | nil => simp
    | cons action rest inductionHypothesis =>
        intro fleet
        rw [run_cons, inductionHypothesis, constant.act (acting_act fleet action),
          List.append_assoc]
        cases feed : action.feed? <;> simp [feed]
  exact fromAny (create tokens)

/-- What never changes is what was given when the feed was opened. -/
theorem eq_of_opened
    (constant : Constant observe)
    {given : Action -> Option α}
    (isGiven : ∀ action : Action, action.feed?.map observe = given action)
    {tokens : Tokens} {actions : List Action} {index : Nat} {member : Member} {value : α}
    (found : ((create tokens).run actions).members[index]? = some member)
    (opened : (actions.filterMap given)[index]? = some value) :
    observe member.feed = value := by
  have observed := constant.run tokens actions
  rw [List.map_filterMap, funext isGiven] at observed
  have atIndex := congrArg (·[index]?) observed
  simpa [found, opened] using atIndex

end Constant

/-- The plans of the feeds that have been opened, the first one first. -/
def plans (fleet : Fleet) : List Feed.Plan :=
  fleet.members.map (·.feed.plan)

/-- The plan of a feed never changes. -/
theorem plan_constant : Constant Feed.plan where
  proceeds proceeding := proceeding.feeding.plan
  polls polling := polling.looking.plan
  leaves _ := rfl

/-- The plans of a fleet are those of the feeds that were opened. -/
theorem plans_run (tokens : Tokens) (actions : List Action) :
    ((create tokens).run actions).plans = actions.filterMap Action.plan? := by
  have isPlan : ∀ action : Action, action.feed?.map Feed.plan = action.plan? := by
    intro action
    cases action <;> rfl
  rw [plans, plan_constant.run, List.map_filterMap]
  exact congrArg (List.filterMap · actions) (funext isPlan)

end Fleet
end BlockFeed
