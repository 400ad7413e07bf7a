import BlockFeed.Proofs.Feed.Ending
import BlockFeed.Proofs.Feed.Replies

/-!
# Feeds that are called off

A feed is called off by itself, by its token, by the token that the caller's options
carry, or by its consumer who goes. From then on its loop does nothing but to give back
a body that it has in hand and to close the buffer, wherever it was waiting. What was
pending is still there for the consumer, and there is no fault.
-/

namespace BlockFeed
namespace Feed

/-! ## The loop -/

variable {feed next origin : Feed} {now : Instant}

theorem callOff_of_noBody (noBody : feed.stage.holdsBody = false) (now : Instant) :
    feed.callOff now = feed.finish := by
  simp [callOff, noBody]

/-- Wherever it is waiting, a loop that has been called off can end at once. -/
theorem proceed?_of_calledOff (unfinished : feed.stage ≠ .finished) (now : Instant) :
    feed.proceed? now true = some (feed.callOff now) := by
  cases stage : feed.stage with
  | finished => exact absurd stage unfinished
  | turning =>
      have noBody := callOff_of_noBody (by rw [stage]; rfl) now
      simp [proceed?, stage, turn, noBody]
  | _ => simp [proceed?, stage]

/-- All that a loop does that has been called off is to end. -/
theorem Proceeding.eq_callOff (proceeding : feed.Proceeding now true next) :
    next = feed.callOff now := by
  cases proceeding with
  | overreached turning =>
      exact (callOff_of_noBody (by rw [turning]; rfl) now).symm
  | calledOff => rfl
  | _ => simp_all

@[simp] theorem buffer_callOff (feed : Feed) (now : Instant) :
    (feed.callOff now).buffer = feed.buffer.close := by
  unfold callOff
  split <;> rfl

@[simp] theorem tip_callOff (feed : Feed) (now : Instant) :
    (feed.callOff now).tip = feed.tip := by
  unfold callOff
  split <;> rfl

theorem agrees_callOff (feed : Feed) (now : Instant) : feed.Agrees (feed.callOff now) := by
  unfold callOff
  split
  · exact (feed.agrees_abandon now).trans (agrees_finish _)
  · exact feed.agrees_finish

/-- The entry for a body in hand that is given back. -/
def handedBack (feed : Feed) (instant : Instant) : List Entry :=
  if feed.stage.holdsBody then [⟨instant, .released false⟩] else []

theorem dealings_callOff (feed : Feed) (now : Instant) :
    (feed.callOff now).dealings = feed.dealings ++ feed.handedBack now := by
  rw [dealings, log_callOff, List.filter_append, handedBack]
  split <;> rfl

/-- What is pending is still there for the consumer when the loop ends. -/
theorem closing_callOff
    (running : feed.buffer.phase = .running)
    (now : Instant) :
    (feed.callOff now).closing = feed.closing := by
  have closed : (feed.callOff now).buffer.phase = .closed := by
    rw [buffer_callOff, Buffer.close_of_running running]
  have pending : (feed.callOff now).buffer.pending = feed.buffer.pending := by
    rw [buffer_callOff, Buffer.close_of_running running]
  have before : feed.closing = feed.lastBatch ++ [.ended] :=
    closing_of_not_failed (by rw [running]; nofun)
  rw [before, closing_of_not_failed (by rw [closed]; nofun)]
  simp only [lastBatch, batchOf, pending, tip_callOff]

/-! ## What is left -/

/-- What may have become of a feed since it was called off as `origin`. -/
structure CalledOff (origin feed : Feed) : Prop where
  gathered : feed.gathered = origin.gathered
  winds : feed.WindsUp (origin.yields ++ (origin.lastBatch ++ [.ended]))
  place :
    (feed.stage = origin.stage ∧ feed.buffer.phase = .running ∧
      feed.dealings = origin.dealings) ∨
    (feed.stage = .finished ∧ feed.buffer.phase = .closed ∧
      ∃ instant, feed.dealings = origin.dealings ++ origin.handedBack instant)

namespace CalledOff

theorem begin (running : feed.buffer.phase = .running) (flowing : feed.Flowing) :
    feed.CalledOff feed where
  gathered := rfl
  winds := by
    rw [← closing_of_not_failed (by simp [running])]
    exact flowing.windsUp
  place := .inl ⟨rfl, running, rfl⟩

theorem not_failed (calledOff : origin.CalledOff feed) (report : Option Fault) :
    feed.buffer.phase ≠ .failed report := by
  rcases calledOff.place with ⟨_, running, _⟩ | ⟨_, closed, _⟩
  · simp [running]
  · simp [closed]

/-- The loop ends. -/
theorem proceed
    (calledOff : origin.CalledOff feed)
    (proceeding : feed.Proceeding now true next) :
    origin.CalledOff next := by
  rcases calledOff.place with ⟨sameStage, running, dealings⟩ | ⟨finished, _⟩
  · have feeding := proceeding.feeding
    obtain rfl := proceeding.eq_callOff
    refine ⟨(feed.agrees_callOff now).gathered.trans calledOff.gathered,
      calledOff.winds.proceed feeding (closing_callOff running now),
      .inr ⟨feed.stage_callOff now, ?_, now, ?_⟩⟩
    · rw [buffer_callOff, Buffer.close_of_running running]
    · rw [dealings_callOff, dealings, handedBack, sameStage, handedBack]
  · exact absurd finished proceeding.unfinished

/-- The consumer takes only what was pending. -/
theorem poll
    {result : Option Yield}
    (calledOff : origin.CalledOff feed)
    (polling : feed.Polling now result next) :
    origin.CalledOff next := by
  have looking := polling.looking
  rcases polling.moves with ⟨samePhase, gathered⟩ | ⟨⟨report, failed⟩, _⟩
  · refine ⟨gathered.trans calledOff.gathered, calledOff.winds.poll polling, ?_⟩
    rw [looking.stage, samePhase, polling.dealings]
    exact calledOff.place
  · exact absurd failed (calledOff.not_failed report)

theorem leave (calledOff : origin.CalledOff feed) : origin.CalledOff feed.leave :=
  ⟨calledOff.gathered, calledOff.winds.leave, calledOff.place⟩

end CalledOff

/-- A feed whose loop has ended since is closed. -/
theorem CalledOff.closed
    (calledOff : origin.CalledOff feed)
    (unfinished : origin.stage ≠ .finished)
    (finished : feed.stage = .finished) :
    feed.buffer.phase = .closed := by
  rcases calledOff.place with ⟨same, _⟩ | ⟨_, closed, _⟩
  · exact absurd (same.symm.trans finished) unfinished
  · exact closed

/-- What is true of a feed that has been called off stays so. -/
theorem calledOff_lasting (origin : Feed) :
    Fleet.Lasting fun feed _ cancelled => cancelled = true ∧ origin.CalledOff feed where
  proceeds := by
    rintro feed now cancelled next ⟨rfl, calledOff⟩ proceeding
    exact ⟨rfl, calledOff.proceed proceeding⟩
  polls holds polling := ⟨holds.1, holds.2.poll polling⟩
  leaves holds := ⟨holds.1, holds.2.leave⟩
  calledOff holds := ⟨rfl, holds.2⟩
  later _ holds := holds

/-- A feed that has been called off can end at once unless it has. -/
theorem ends_of_calledOff
    {cancelled : Bool}
    (holds : cancelled = true ∧ origin.CalledOff feed)
    (unfinished : feed.stage ≠ .finished) :
    ∃ next, feed.proceed? now cancelled = some next ∧ next.stage = .finished :=
  ⟨feed.callOff now, by rw [holds.1]; exact proceed?_of_calledOff unfinished now,
    feed.stage_callOff now⟩

end Feed

namespace Fleet

variable {fleet : Fleet} {index : Nat} {member : Member}

/-! ## Ways of calling a feed off -/

/-- The token that the caller's options carry, for an action that opens a feed. -/
def Action.abort? : Action -> Option (Option Token)
  | .opened client _ _ options => some (client.requestOf options).abort
  | _ => none

/-- The ways of calling a feed off that has its own token, and perhaps one that the
caller's options carry. -/
inductive CallsOff (index : Nat) (token : Token) (abort : Option Token) : Action -> Prop
  | feed : CallsOff index token abort (.cancel index)
  | token : CallsOff index token abort (.cancelToken token)
  | caller (above : Token) :
      abort = some above -> CallsOff index token abort (.cancelToken above)
  | consumer : CallsOff index token abort (.leave index)

/-- The parents of the tokens of all feeds, as far as the tokens exist. -/
def parents (fleet : Fleet) : List (Option (Option Token)) :=
  fleet.members.map fun member => fleet.tokens.entries[member.token.index]?.map (·.parent)

theorem abort?_of_plan? {action : Action} (noPlan : action.plan? = none) :
    action.abort? = none := by
  cases action with
  | opened => cases noPlan
  | _ => rfl

theorem parents_update (fleet : Fleet) (index : Nat) (change : Feed -> Feed) :
    (fleet.update index change).parents = fleet.parents := by
  refine List.ext_getElem? fun place => ?_
  simp only [parents, List.getElem?_map, getElem?_update]
  split
  · cases fleet.members[place]? <;> rfl
  · rfl

/-- Tokens that exist have the same parents in a later registry. -/
theorem parents_withTokens
    {expected : List (Option Token)}
    (known : fleet.parents = expected.map some)
    {tokens : Tokens}
    (grows : fleet.tokens.Grows tokens) :
    parents { fleet with tokens := tokens } = expected.map some := by
  rw [← known]
  refine List.map_congr_left fun member mem => ?_
  have isKnown : fleet.tokens.entries[member.token.index]?.map (·.parent) ∈
      expected.map some := by
    rw [← known]
    exact List.mem_map_of_mem mem
  obtain ⟨parent, _, isParent⟩ := List.mem_map.mp isKnown
  obtain ⟨entry, found, _⟩ := Option.map_eq_some_iff.mp isParent.symm
  obtain ⟨later, isLater, sameParent, _⟩ := grows member.token.index entry found
  simp only [found, isLater, Option.map_some, sameParent]

/-- Opening a feed gives its token a parent, and none is ever changed. -/
theorem Acting.parents
    {next : Fleet} {action : Action} {expected : List (Option Token)}
    (acting : fleet.Acting action next)
    (known : fleet.parents = expected.map some) :
    next.parents = (expected ++ action.abort?.toList).map some := by
  cases acting with
  | opened client portal query options =>
      have older := parents_withTokens known
        (Tokens.grows_create fleet.tokens (client.requestOf options).abort)
      rw [List.map_append, ← older, Fleet.parents, Fleet.opened, List.map_append]
      simp [Fleet.parents, Action.abort?, Tokens.create]
  | proceeded => simpa [parents_update, Action.abort?] using known
  | polled => simpa [parents_update, Action.abort?] using known
  | cancelled _ tokens noPlan grows =>
      simpa [abort?_of_plan? noPlan] using parents_withTokens known grows
  | left _ tokens grows =>
      simpa [parents_update, Action.abort?] using parents_withTokens known grows
  | passed =>
      change fleet.parents = (expected ++ []).map some
      rw [List.append_nil, known]
  | idle _ noPlan => simpa [abort?_of_plan? noPlan] using known

/-- The token of every feed is a child of the one that the options carried with which it
was opened. -/
theorem parents_run (tokens : Tokens) (actions : List Action) :
    ((create tokens).run actions).parents = (actions.filterMap Action.abort?).map some := by
  have fromAny : ∀ (fleet : Fleet) (expected : List (Option Token)),
      fleet.parents = expected.map some ->
      (fleet.run actions).parents =
        (expected ++ actions.filterMap Action.abort?).map some := by
    induction actions with
    | nil => simp
    | cons action rest inductionHypothesis =>
        intro fleet expected known
        rw [run_cons, inductionHypothesis _ _ ((acting_act fleet action).parents known)]
        cases abort : action.abort? <;> simp [abort]
  exact fromAny (create tokens) [] rfl

/-- The token of a feed is a child of the one that the options carried with which the feed was
opened. -/
theorem parent_of_opened
    {tokens : Tokens} {actions : List Action} {abort : Option Token}
    (found : ((create tokens).run actions).members[index]? = some member)
    (isAbort : (actions.filterMap Action.abort?)[index]? = some abort) :
    ((create tokens).run actions).tokens.entries[member.token.index]?.map (·.parent) =
      some abort := by
  have atIndex : ((create tokens).run actions).parents[index]? =
      some (((create tokens).run actions).tokens.entries[member.token.index]?.map
        (·.parent)) := by
    rw [parents, List.getElem?_map, found]
    rfl
  rw [parents_run, List.getElem?_map, isAbort] at atIndex
  exact (Option.some.inj atIndex).symm

/-- However a feed is called off, it has been called off then. -/
theorem isCancelled_of_callsOff
    {abort : Option Token} {action : Action}
    (found : fleet.members[index]? = some member)
    (parent : fleet.tokens.entries[member.token.index]?.map (·.parent) = some abort)
    (exist : ∀ above, abort = some above -> above.index < fleet.tokens.entries.length)
    (callsOff : CallsOff index member.token abort action) :
    ∃ later, (fleet.act action).members[index]? = some later ∧
      (fleet.act action).isCancelled later = true := by
  obtain ⟨entry, isEntry, isParent⟩ := Option.map_eq_some_iff.mp parent
  obtain ⟨bound, _⟩ := List.getElem?_eq_some_iff.mp isEntry
  have cancelled : (fleet.tokens.cancel member.token).isCancelled member.token = true :=
    Tokens.isCancelled_cancel bound
  cases callsOff with
  | feed =>
      refine ⟨member, ?_, ?_⟩
      · simp [act, cancel, found]
      · simpa [act, cancel, found, isCancelled] using cancelled
  | token => exact ⟨member, found, cancelled⟩
  | caller above isAbove =>
      exact ⟨member, found,
        Tokens.isCancelled_of_parent isEntry (isParent.trans isAbove) (exist above isAbove)⟩
  | consumer =>
      refine ⟨{ member with feed := member.feed.leave }, ?_, ?_⟩
      · rw [act, leave, getElem?_update, if_pos rfl, cancel, found]
        dsimp only
        rw [found]
        rfl
      · simpa [act, leave, cancel, found, isCancelled, update] using cancelled

/-- One step of the loop and two questions bring all that was left for the consumer when the
feed was called off. -/
theorem nears_of_calledOff
    {origin : Feed}
    (found : fleet.members[index]? = some member)
    (isCancelled : fleet.isCancelled member = true)
    (calledOff : origin.CalledOff member.feed)
    (unfinished : origin.stage ≠ .finished)
    {more : List Action}
    (stepsAndAsks : [.proceed index, .poll index, .poll index].Sublist more) :
    ∃ later, (fleet.run more).members[index]? = some later ∧ later.feed.Nears 0 := by
  obtain ⟨stepping, asking, rfl, stepped, asks⟩ := List.cons_sublist_iff.mp stepsAndAsks
  obtain ⟨after, isAfter, ⟨_, afterCalledOff⟩, finished⟩ := finished_of_stepped
    (Feed.calledOff_lasting origin) Feed.ends_of_calledOff found ⟨isCancelled, calledOff⟩ stepped
  have ended : after.feed.buffer.phase ≠ .running := by
    rw [afterCalledOff.closed unfinished finished]
    nofun
  rw [run_append]
  exact nears_of_polls 2 isAfter (Feed.nears_of_ended finished ended) asks

/-- A feed is called off by itself, by its token, by the one that the caller's options
carried or by its consumer who goes.

From then on, no block is put into the buffer. Wherever the loop was waiting, it stays
there without any dealings with the portal until it takes a step: then it gives back a
body that it has in hand, has no dealings any more and closes the buffer. Whatever
happens, the consumer gets no more than what was pending as one last batch and then the
end, and it gets both if it asks twice after that step and has not gone; unless one of its
timers overshoots. -/
theorem called_off_feeds_end_cleanly (tokens : Tokens) (actions : List Action) :
    let fleet := (create tokens).run actions
    ∀ (index : Nat) (member : Member), fleet.members[index]? = some member ->
      let feed := member.feed
      (∀ abort action, (actions.filterMap Action.abort?)[index]? = some abort ->
        (∀ above, abort = some above -> above.index < fleet.tokens.entries.length) ->
        CallsOff index member.token abort action ->
        ∃ later, (fleet.act action).members[index]? = some later ∧
          (fleet.act action).isCancelled later = true) ∧
      (fleet.isCancelled member = true -> feed.stage ≠ .finished -> ∀ more,
        ∃ later, (fleet.run more).members[index]? = some later ∧
          later.feed.gathered = feed.gathered ∧
          ((later.feed.stage = feed.stage ∧ later.feed.buffer.phase = .running ∧
              later.feed.dealings = feed.dealings) ∨
            (later.feed.stage = .finished ∧ later.feed.buffer.phase = .closed ∧
              ∃ instant, later.feed.dealings = feed.dealings ++ feed.handedBack instant)) ∧
          (.proceed index ∈ more -> later.feed.buffer.phase = .closed) ∧
          ∃ got, later.feed.yields = feed.yields ++ got ∧
            (later.feed.Overran (fleet.run more).now ∨
              (got <+: feed.lastBatch ++ [.ended] ∧
                (later.feed.consumer ≠ .gone ->
                  [.proceed index, .poll index, .poll index].Sublist more ->
                  got = feed.lastBatch ++ [.ended])))) := by
  intro fleet index member found feed
  have mem : member ∈ fleet.members := List.mem_of_getElem? found
  refine ⟨?_, ?_⟩
  · intro abort action opened exist callsOff
    exact isCancelled_of_callsOff found (parent_of_opened found opened) exist callsOff
  · intro isCancelled unfinished more
    have conserves := Feed.conserves_invariant.run tokens actions member mem
    have running := conserves.running unfinished
    have flowing := Feed.flowing_invariant.run tokens actions member mem running
    have calledOff := Feed.CalledOff.begin running flowing
    have timely := Feed.timely_invariant.run tokens actions member mem
    have lasting := ((Feed.calledOff_lasting feed).and (Feed.yields_lasting feed.yields)).and
      Feed.timely_invariant.toLasting
    obtain ⟨later, isLater, _, ⟨⟨_, laterCalledOff⟩, grown⟩, stillTimely⟩ :=
      lasting.run found ⟨⟨⟨isCancelled, calledOff⟩, List.prefix_refl _⟩, timely⟩ more
    obtain ⟨got, yields, outcome⟩ := laterCalledOff.winds.got grown
    refine ⟨later, isLater, laterCalledOff.gathered, laterCalledOff.place, ?_, got, yields, ?_⟩
    · intro stepped
      obtain ⟨same, isSame, ⟨_, sameCalledOff⟩, finished⟩ := finished_of_stepped
        (Feed.calledOff_lasting feed) Feed.ends_of_calledOff found ⟨isCancelled, calledOff⟩ stepped
      obtain rfl : later = same := Option.some.inj (isLater.symm.trans isSame)
      exact sameCalledOff.closed unfinished finished
    · by_cases overflow : .overflow ∈ later.feed.yields
      · exact .inl (stillTimely.overran overflow)
      · obtain ⟨isPrefix, whole⟩ := outcome.resolve_left overflow
        refine .inr ⟨isPrefix, fun stays stepsAndAsks => ?_⟩
        obtain ⟨same, isSame, answered⟩ :=
          nears_of_calledOff found isCancelled calledOff unfinished stepsAndAsks
        obtain rfl : later = same := Option.some.inj (isLater.symm.trans isSame)
        exact (whole (answered.nothing_left overflow)).resolve_left stays

/-- A feed that is called off while a body hangs still hands out the block before. -/
theorem called_off_feeds_end_cleanly_in_a_body :
    let block := Bytes.ofString "\x7b\"header\":\x7b\"number\":7\x7d\x7d\n"
    let portal := Portal.scripted []
      [⟨0, .ok ⟨200, some [⟨0, .data block⟩, ⟨0, .silence⟩]⟩⟩]
    let actions := .opened ⟨"", "", {}⟩ portal (.ofSelection (.empty .evm)) {} ::
      List.replicate 8 (.proceed 0)
    let fleet := (create .empty).run (actions ++ [.cancel 0])
    ∃ member later, fleet.members[0]? = some member ∧
      fleet.isCancelled member = true ∧ member.feed.stage.holdsBody = true ∧
      (fleet.run [.proceed 0, .poll 0, .poll 0]).members[0]? = some later ∧
      later.feed.yields = member.feed.lastBatch ++ [.ended] ∧
      later.feed.delivered.map Block.number = [7] := by
  intro block portal actions fleet
  let observe := fun member : Member =>
    (member.feed.stage.holdsBody, member.feed.yields.length,
      member.feed.yields.all (fun given => given.batch?.isSome || given.isEnd),
      member.feed.consumer, member.feed.delivered.map Block.number)
  have reading : ((create .empty).run actions).members.map observe =
      [(true, 0, true, .idle, [])] := by
    decide +kernel
  have calledOff : fleet.members.map observe = [(true, 0, true, .idle, [])] := by
    decide +kernel
  have ended : (fleet.run [.proceed 0, .poll 0, .poll 0]).members.map observe =
      [(false, 2, true, .over, [7])] := by
    decide +kernel
  have isFleet : ((create .empty).run actions).act (.cancel 0) = fleet := by
    simp only [fleet, run_append, run_cons, run_nil]
  obtain ⟨before, alone⟩ : ∃ before, ((create .empty).run actions).members = [before] :=
    List.length_eq_one_iff.mp (by simpa using congrArg List.length reading)
  have found : ((create .empty).run actions).members[0]? = some before := by
    rw [alone]
    rfl
  obtain ⟨ways, _⟩ := called_off_feeds_end_cleanly .empty actions 0 before found
  obtain ⟨member, isMember, isCancelled⟩ := ways none (.cancel 0) rfl nofun .feed
  rw [isFleet] at isMember isCancelled
  have seen : observe member = (true, 0, true, .idle, []) := observe_eq calledOff isMember
  have holdsBody : member.feed.stage.holdsBody = true := congrArg Prod.fst seen
  have unfinished : member.feed.stage ≠ .finished := by
    intro finished
    rw [finished] at holdsBody
    cases holdsBody
  have nothingBefore : member.feed.yields = [] :=
    List.length_eq_zero_iff.mp (congrArg (·.2.1) seen)
  obtain ⟨_, ends⟩ := called_off_feeds_end_cleanly .empty _ 0 member
    isMember
  obtain ⟨later, isLater, _, _, _, got, yields, outcome⟩ :=
    ends isCancelled unfinished [.proceed 0, .poll 0, .poll 0]
  have seenLater : observe later = (false, 2, true, .over, [7]) := observe_eq ended isLater
  have told : later.feed.yields.all (fun given => given.batch?.isSome || given.isEnd) = true :=
    congrArg (·.2.2.1) seenLater
  have noOverflow : .overflow ∉ later.feed.yields := fun overflow =>
    absurd (List.all_eq_true.mp told _ overflow) nofun
  have isOver : later.feed.consumer = .over := congrArg (·.2.2.2.1) seenLater
  have stays : later.feed.consumer ≠ .gone := by
    rw [isOver]
    nofun
  obtain ⟨_, whole⟩ := outcome.resolve_left fun overran => noOverflow overran.1
  refine ⟨member, later, isMember, isCancelled, holdsBody, isLater, ?_,
    congrArg (·.2.2.2.2) seenLater⟩
  rw [yields, nothingBefore, List.nil_append]
  exact whole stays (List.Sublist.refl _)

/-- A feed is called off while a body hangs, and its consumer would wait for the longest time
that there is: it overflows, and the block before stays behind. Without a limit of its own it
gets the block and then the end. -/
theorem longest_wait_holds_back_last_batch :
    let longest : Duration := Duration.ofSeconds (Nat.pow 2 64 - 1) + 999999999
    let block := Bytes.ofString "\x7b\"header\":\x7b\"number\":7\x7d\x7d\n"
    let portal := Portal.scripted []
      [⟨0, .ok ⟨200, some [⟨0, .data block⟩, ⟨0, .silence⟩]⟩⟩]
    let final := fun patience : Option Duration =>
      ((create .empty).run
        (.opened ⟨"", "", {}⟩ portal (.ofSelection (.empty .evm)) { maxWait := patience } ::
          List.replicate 8 (.proceed 0))).run [.cancel 0, .proceed 0, .poll 0, .poll 0]
    (final (some longest)).members.map (fun member =>
        (member.feed.buffer.phase, member.feed.yields == [.overflow],
          member.feed.buffer.pendingBlocks.map Block.number)) =
        [(.closed, true, [7])] ∧
      (final none).members.map (fun member =>
        (member.feed.buffer.phase, member.feed.yields.map Feed.Yield.isEnd,
          member.feed.delivered.map Block.number)) =
        [(.closed, [false, true], [7])] := by
  decide +kernel

end Fleet
end BlockFeed
