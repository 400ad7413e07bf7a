import BlockFeed.Proofs.Feed.Cancellation
import Mathlib.Data.List.Nodup

/-!
# Feeds do not call each other off

Every feed has a token of its own, which is a child of the one that the caller's options carry.
What is done to a feed marks only the feed's own token. So a feed is called off exactly if that
was done to it or if the caller's token is cancelled, and a caller's token is cancelled only if
it, or one above it, is cancelled by itself. The requests of a feed are bound to the feed's
token and see the same.
-/

namespace BlockFeed
namespace Fleet

variable {fleet : Fleet} {action : Action} {index : Nat} {member : Member}

/-! ## What an action does to the tokens -/

/-- The token that an action cancels. -/
def target? (fleet : Fleet) : Action -> Option Token
  | .cancel index => fleet.members[index]?.map (·.token)
  | .leave index => fleet.members[index]?.map (·.token)
  | .cancelToken token => some token
  | _ => none

/-- The token and the options of a feed, which it keeps. -/
def Member.bond (member : Member) : Token × RequestOptions := (member.token, member.request)

/-- The bonds of all feeds. -/
def bonds (fleet : Fleet) : List (Token × RequestOptions) := fleet.members.map Member.bond

/-- The options of the feed that an action opens. -/
def Action.request? : Action -> Option RequestOptions
  | .opened client _ _ options => some (client.requestOf options)
  | _ => none

theorem abort?_eq (action : Action) : action.abort? = action.request?.map (·.abort) := by
  cases action <;> rfl

/-- The bond of the feed that is opened with some options. -/
def bondOf (fleet : Fleet) (request : RequestOptions) : Token × RequestOptions :=
  ((fleet.tokens.create request.abort).1, request.withAbort (fleet.tokens.create request.abort).1)

theorem bonds_update (fleet : Fleet) (index : Nat) (change : Feed -> Feed) :
    (fleet.update index change).bonds = fleet.bonds := by
  refine List.ext_getElem? fun place => ?_
  simp only [bonds, List.getElem?_map, getElem?_update]
  split
  · cases fleet.members[place]? <;> rfl
  · rfl

theorem cancel_eq_of_target (fleet : Fleet) (index : Nat) :
    fleet.cancel index =
      { fleet with
        tokens :=
          ((fleet.target? (.cancel index)).map fleet.tokens.cancel).getD fleet.tokens } := by
  cases found : fleet.members[index]? <;> simp [cancel, target?, found]

/-- Opening a feed is the only thing that makes a bond, and none is ever dissolved. -/
theorem bonds_act (fleet : Fleet) (action : Action) :
    (fleet.act action).bonds = fleet.bonds ++ (action.request?.map fleet.bondOf).toList := by
  cases action with
  | opened client portal query options =>
      simp [act, opened, bonds, Action.request?, bondOf, Member.bond]
  | proceed index =>
      cases found : fleet.members[index]? with
      | none => simp [act, proceed?, found, Action.request?]
      | some member =>
          cases proceeds : member.feed.proceed? fleet.now (fleet.isCancelled member) <;>
            simp [act, proceed?, found, proceeds, Action.request?, bonds_update]
  | poll index =>
      cases found : fleet.members[index]? <;>
        simp [act, poll, found, Action.request?, bonds_update]
  | cancel index => simp [act, cancel_eq_of_target, bonds, Action.request?]
  | cancelToken token => simp [act, bonds, Action.request?]
  | leave index =>
      simp [act, leave, bonds_update, cancel_eq_of_target, Action.request?]
      rfl
  | pass duration => simp [act, bonds, Action.request?]

/-- After an action there is one token more, or one more is cancelled, or all is as before. -/
theorem tokens_act (fleet : Fleet) (action : Action) :
    (fleet.act action).tokens =
      match action.request?, fleet.target? action with
      | some request, _ => (fleet.tokens.create request.abort).2
      | none, some target => fleet.tokens.cancel target
      | none, none => fleet.tokens := by
  cases action with
  | opened client portal query options => rfl
  | proceed index =>
      cases found : fleet.members[index]? with
      | none => simp [act, proceed?, found, Action.request?, target?]
      | some member =>
          cases proceeds : member.feed.proceed? fleet.now (fleet.isCancelled member) <;>
            simp [act, proceed?, found, proceeds, Action.request?, target?, update]
  | poll index =>
      cases found : fleet.members[index]? <;>
        simp [act, poll, found, Action.request?, target?, update]
  | cancel index =>
      cases found : fleet.members[index]? <;> simp [act, cancel, found, Action.request?, target?]
  | cancelToken token => rfl
  | leave index =>
      cases found : fleet.members[index]? <;>
        simp [act, leave, cancel, found, Action.request?, target?, update]
  | pass duration => rfl

theorem grows_act (fleet : Fleet) (action : Action) :
    fleet.tokens.Grows (fleet.act action).tokens := by
  rw [tokens_act]
  split
  · exact Tokens.grows_create _ _
  · exact Tokens.grows_cancel _ _
  · exact Tokens.grows_refl _

theorem grows_run (fleet : Fleet) (actions : List Action) :
    fleet.tokens.Grows (fleet.run actions).tokens := by
  induction actions generalizing fleet with
  | nil => exact Tokens.grows_refl _
  | cons action rest inductionHypothesis =>
      exact (fleet.grows_act action).trans (inductionHypothesis (fleet.act action))

/-- A token is marked by what cancels it. -/
theorem isMarked_act_iff
    {token : Token}
    (registered : token.index < fleet.tokens.entries.length)
    (action : Action) :
    (fleet.act action).tokens.isMarked token = true ↔
      fleet.tokens.isMarked token = true ∨ fleet.target? action = some token := by
  rw [tokens_act]
  cases request : action.request? with
  | some request =>
      have noTarget : fleet.target? action = none := by
        cases action with
        | opened => rfl
        | _ => cases request
      simp [noTarget, Tokens.isMarked_create registered]
  | none =>
      cases target : fleet.target? action with
      | none => simp
      | some target => simp [Tokens.isMarked_cancel_iff, registered]

/-! ## Feeds with tokens of their own -/

/-- The tokens to which callers bind their feeds exist by then. -/
def Bound (fleet : Fleet) : List Action -> Prop
  | [] => True
  | action :: rest =>
      (∀ above, action.abort? = some (some above) ->
        above.index < fleet.tokens.entries.length) ∧ (fleet.act action).Bound rest

theorem bound_append (fleet : Fleet) (left right : List Action) :
    fleet.Bound (left ++ right) ↔ fleet.Bound left ∧ (fleet.run left).Bound right := by
  induction left generalizing fleet with
  | nil => simp [Bound]
  | cons action left inductionHypothesis =>
      simp only [List.cons_append, Bound, inductionHypothesis, run_cons, and_assoc]

/-- Feeds that were opened behind the first `base` tokens have tokens of their own. -/
structure Separate (base : Nat) (fleet : Fleet) : Prop where
  ordered : fleet.tokens.IsOrdered
  behind : base ≤ fleet.tokens.entries.length
  own : ∀ bond ∈ fleet.bonds,
    base ≤ bond.1.index ∧ bond.1.index < fleet.tokens.entries.length ∧
      bond.2.abort = some bond.1
  distinct : (fleet.bonds.map (·.1)).Nodup

namespace Separate

variable {base : Nat}

theorem create {tokens : Tokens} (ordered : tokens.IsOrdered) :
    Separate tokens.entries.length (create tokens) :=
  ⟨ordered, Nat.le_refl _, nofun, List.nodup_nil⟩

theorem act
    (separate : fleet.Separate base)
    (bound : ∀ above, action.abort? = some (some above) ->
      above.index < fleet.tokens.entries.length) :
    (fleet.act action).Separate base := by
  have grows := fleet.grows_act action
  have length := grows.length_le
  have older : ∀ bond ∈ fleet.bonds,
      base ≤ bond.1.index ∧ bond.1.index < (fleet.act action).tokens.entries.length ∧
        bond.2.abort = some bond.1 := by
    intro bond mem
    obtain ⟨behind, registered, isBound⟩ := separate.own bond mem
    exact ⟨behind, grows.registered registered, isBound⟩
  have bonds := fleet.bonds_act action
  have tokens := fleet.tokens_act action
  cases isRequest : action.request? with
  | none =>
      rw [isRequest, Option.map_none, Option.toList_none, List.append_nil] at bonds
      refine ⟨?_, Nat.le_trans separate.behind length, ?_, ?_⟩
      · rw [tokens, isRequest]
        split
        · contradiction
        · exact separate.ordered.cancel _
        · exact separate.ordered
      · rwa [bonds]
      · rw [bonds]
        exact separate.distinct
  | some request =>
      rw [isRequest] at bonds
      replace tokens : (fleet.act action).tokens = (fleet.tokens.create request.abort).2 := by
        rw [tokens, isRequest]
      refine ⟨?_, Nat.le_trans separate.behind length, ?_, ?_⟩
      · rw [tokens]
        refine separate.ordered.create fun above isAbove => bound above ?_
        rw [abort?_eq, isRequest, Option.map_some, isAbove]
      · rw [bonds]
        intro bond mem
        rcases List.mem_append.mp mem with isOld | isNew
        · exact older bond isOld
        · rw [List.mem_singleton.mp isNew]
          exact ⟨separate.behind, by simp [tokens, bondOf, Tokens.create], rfl⟩
      · have fresh : (fleet.bondOf request).1 ∉ fleet.bonds.map (·.1) := by
          intro mem
          obtain ⟨bond, isBond, same⟩ := List.mem_map.mp mem
          have registered := (separate.own bond isBond).2.1
          rw [same] at registered
          exact Nat.lt_irrefl _ registered
        rw [bonds, List.map_append, List.nodup_append]
        refine ⟨separate.distinct, List.nodup_singleton _, ?_⟩
        intro token mem other isNew same
        obtain rfl : token = (fleet.bondOf request).1 :=
          same.trans (List.mem_singleton.mp isNew)
        exact fresh mem

theorem run
    (separate : fleet.Separate base)
    {actions : List Action}
    (bound : fleet.Bound actions) :
    (fleet.run actions).Separate base := by
  induction actions generalizing fleet with
  | nil => exact separate
  | cons action rest inductionHypothesis =>
      exact inductionHypothesis (separate.act bound.1) bound.2

/-- Nothing that is done to feeds cancels a token that was there before them. -/
theorem target?_eq_of_caller
    (separate : fleet.Separate base)
    {caller : Token}
    (before : caller.index < base)
    (action : Action) :
    fleet.target? action = some caller ↔ action = .cancelToken caller := by
  have notOwn : ∀ index : Nat, fleet.members[index]?.map Member.token ≠ some caller := by
    intro index isOwn
    obtain ⟨member, found, rfl⟩ := Option.map_eq_some_iff.mp isOwn
    have behind := (separate.own member.bond
      (List.mem_map_of_mem (List.mem_of_getElem? found))).1
    exact Nat.not_lt.mpr behind before
  cases action with
  | cancel index => simpa [target?] using notOwn index
  | leave index => simpa [target?] using notOwn index
  | cancelToken token => simp [target?]
  | _ => simp [target?]

/-- The token of a feed is cancelled by what calls off this feed and no other. -/
theorem target?_eq_of_member
    (separate : fleet.Separate base)
    (found : fleet.members[index]? = some member)
    (action : Action) :
    fleet.target? action = some member.token ↔ CallsOff index member.token none action := by
  have tokenAt : ∀ place : Nat,
      (fleet.bonds.map (·.1))[place]? = fleet.members[place]?.map Member.token := by
    intro place
    rw [bonds, List.map_map, List.getElem?_map]
    rfl
  have isIndex : ∀ place : Nat,
      fleet.members[place]?.map Member.token = some member.token -> index = place := by
    intro place isOwn
    have bound : index < (fleet.bonds.map (·.1)).length := by
      simpa [bonds] using (List.getElem?_eq_some_iff.mp found).1
    refine (List.getElem?_inj bound separate.distinct).mp ?_
    rw [tokenAt, tokenAt, found, isOwn]
    rfl
  constructor
  · intro isTarget
    cases action with
    | cancel place =>
        obtain rfl := isIndex place isTarget
        exact .feed
    | leave place =>
        obtain rfl := isIndex place isTarget
        exact .consumer
    | cancelToken token =>
        obtain rfl := Option.some.inj isTarget
        exact .token
    | _ => cases isTarget
  · intro callsOff
    cases callsOff with
    | feed => simp [target?, found]
    | token => rfl
    | caller above none => cases none
    | consumer => simp [target?, found]

/-- What concerns a token leaves its mark on it, and nothing else does. -/
theorem isMarked_run_iff
    (separate : fleet.Separate base)
    {actions : List Action}
    (bound : fleet.Bound actions)
    {token : Token}
    (registered : token.index < fleet.tokens.entries.length)
    (known : Fleet -> Prop)
    {concerns : Action -> Prop}
    (isKnown : known fleet)
    (kept : ∀ {fleet action}, known fleet -> known (fleet.act action))
    (tells : ∀ {fleet : Fleet}, fleet.Separate base -> known fleet ->
      ∀ action, fleet.target? action = some token ↔ concerns action) :
    (fleet.run actions).tokens.isMarked token = true ↔
      fleet.tokens.isMarked token = true ∨ ∃ action ∈ actions, concerns action := by
  induction actions generalizing fleet with
  | nil => simp
  | cons action rest inductionHypothesis =>
      rw [run_cons, inductionHypothesis (separate.act bound.1) bound.2
        ((fleet.grows_act action).registered registered) (kept isKnown),
        isMarked_act_iff registered, tells separate isKnown]
      simp [or_assoc]

/-- A caller's token bears the mark of its own cancellations only. -/
theorem isMarked_run_iff_of_caller
    (separate : fleet.Separate base)
    {actions : List Action}
    (bound : fleet.Bound actions)
    {caller : Token}
    (before : caller.index < base) :
    (fleet.run actions).tokens.isMarked caller = true ↔
      fleet.tokens.isMarked caller = true ∨ .cancelToken caller ∈ actions := by
  have marked := separate.isMarked_run_iff bound
    (Nat.lt_of_lt_of_le before separate.behind) (fun _ => True) trivial
    (fun _ => trivial) (fun separate _ => separate.target?_eq_of_caller before)
  simpa using marked

/-- The token of a feed bears the marks of what was done to the feed. -/
theorem isMarked_run_iff_of_member
    (separate : fleet.Separate base)
    {actions : List Action}
    (bound : fleet.Bound actions)
    (found : fleet.members[index]? = some member) :
    (fleet.run actions).tokens.isMarked member.token = true ↔
      fleet.tokens.isMarked member.token = true ∨
        ∃ action ∈ actions, CallsOff index member.token none action := by
  have registered : member.token.index < fleet.tokens.entries.length :=
    (separate.own member.bond (List.mem_map_of_mem (List.mem_of_getElem? found))).2.1
  refine separate.isMarked_run_iff bound registered
    (fun fleet => ∃ same, fleet.members[index]? = some same ∧ same.token = member.token)
    ⟨member, found, rfl⟩ ?_ ?_
  · rintro fleet action ⟨same, isSame, token⟩
    obtain ⟨later, isLater, laterToken, _⟩ := (acting_act fleet action).changing isSame
    exact ⟨later, isLater, laterToken.trans token⟩
  · rintro fleet separate ⟨same, isSame, token⟩ action
    rw [← token]
    exact separate.target?_eq_of_member isSame action

/-- A caller's token is cancelled by the cancellations of those above it only. -/
theorem isCancelled_iff_of_caller
    (separate : fleet.Separate base)
    {actions : List Action}
    (bound : fleet.Bound actions)
    {caller : Token}
    (before : caller.index < base) :
    (fleet.run actions).tokens.isCancelled caller = true ↔
      ∃ above, fleet.tokens.IsAbove above caller ∧
        (fleet.tokens.isMarked above = true ∨ .cancelToken above ∈ actions) := by
  have registered := Nat.lt_of_lt_of_le before separate.behind
  rw [(separate.run bound).ordered.isCancelled_iff_isAbove]
  refine exists_congr fun above => ?_
  rw [(fleet.grows_run actions).isAbove_iff separate.ordered registered]
  refine and_congr_right fun isAbove => ?_
  have aboveBefore := Nat.lt_of_le_of_lt (isAbove.index_le separate.ordered) before
  exact separate.isMarked_run_iff_of_caller bound aboveBefore

/-- A feed is called off if its token is marked or the one is cancelled of which that is a
child. -/
theorem isCancelled_iff
    (separate : fleet.Separate base)
    {abort : Option Token}
    (parent : fleet.tokens.entries[member.token.index]?.map (·.parent) = some abort) :
    fleet.isCancelled member = true ↔
      fleet.tokens.isMarked member.token = true ∨ abort.any fleet.tokens.isCancelled = true := by
  obtain ⟨entry, found, rfl⟩ := Option.map_eq_some_iff.mp parent
  rw [isCancelled, separate.ordered.isCancelled_iff found, Option.any_eq_true]

/-- The requests of a feed see whether it has been called off. -/
theorem isAborted_request
    (separate : fleet.Separate base)
    (found : fleet.members[index]? = some member) :
    member.request.isAborted fleet.tokens = fleet.isCancelled member := by
  have own := separate.own member.bond (List.mem_map_of_mem (List.mem_of_getElem? found))
  have abort : member.request.abort = some member.token := own.2.2
  rw [RequestOptions.isAborted, abort]
  rfl

end Separate

/-! ## What stops one feed -/

/-- The ways in which a feed is stopped by itself. -/
def Action.IsStop (index : Nat) (action : Action) : Prop :=
  action = .cancel index ∨ action = .leave index

namespace Action.IsStop

variable {stop : Action}

theorem bound (isStop : stop.IsStop index) (fleet : Fleet) : fleet.Bound [stop] := by
  rcases isStop with rfl | rfl <;> exact ⟨nofun, trivial⟩

/-- Other feeds are as before when one is stopped. -/
theorem getElem?_act
    (isStop : stop.IsStop index)
    (fleet : Fleet)
    {place : Nat}
    (other : place ≠ index) :
    (fleet.act stop).members[place]? = fleet.members[place]? := by
  rcases isStop with rfl | rfl
  · rw [act, cancel_eq_of_target]
  · rw [act, Fleet.leave, getElem?_update, if_neg other.symm, cancel_eq_of_target]

end Action.IsStop

namespace Separate

variable {base : Nat} {stop : Action}

/-- Stopping a feed cancels no caller's token. -/
theorem isAborted_of_stop
    (separate : fleet.Separate base)
    (isStop : stop.IsStop index)
    {abort : Option Token}
    (ofCaller : ∀ caller, abort = some caller -> caller.index < base) :
    abort.any (fleet.act stop).tokens.isCancelled = abort.any fleet.tokens.isCancelled := by
  cases abort with
  | none => rfl
  | some caller =>
      have before := ofCaller caller rfl
      have nothing : fleet.Bound [] := trivial
      have now := separate.isCancelled_iff_of_caller nothing before
      have later := separate.isCancelled_iff_of_caller (isStop.bound fleet) before
      have noCancel : ∀ above, .cancelToken above ∉ [stop] := by
        rcases isStop with rfl | rfl <;> simp
      simp only [noCancel, or_false] at later
      simp only [List.not_mem_nil, or_false] at now
      exact Bool.eq_iff_iff.mpr (later.trans now.symm)

/-- Stopping a feed calls off no other that was opened with a caller's token. -/
theorem isCancelled_of_stop
    (separate : fleet.Separate base)
    (isStop : stop.IsStop index)
    {place : Nat} {other : Member}
    (isOther : place ≠ index)
    (found : fleet.members[place]? = some other)
    {abort : Option Token}
    (parent : fleet.tokens.entries[other.token.index]?.map (·.parent) = some abort)
    (ofCaller : ∀ caller, abort = some caller -> caller.index < base) :
    (fleet.act stop).isCancelled other = fleet.isCancelled other := by
  have stopped := separate.act (isStop.bound fleet).1
  have registered : other.token.index < fleet.tokens.entries.length :=
    (separate.own other.bond (List.mem_map_of_mem (List.mem_of_getElem? found))).2.1
  have sameParent : (fleet.act stop).tokens.entries[other.token.index]?.map (·.parent) =
      some abort := by
    obtain ⟨entry, isEntry, isParent⟩ := Option.map_eq_some_iff.mp parent
    obtain ⟨later, isLater, same, _⟩ := fleet.grows_act stop _ entry isEntry
    rw [isLater, Option.map_some, same, isParent]
  have spared : fleet.target? stop ≠ some other.token := by
    rw [ne_eq, separate.target?_eq_of_member found]
    rintro callsOff
    rcases isStop with rfl | rfl <;> cases callsOff <;> exact isOther rfl
  rw [Bool.eq_iff_iff, stopped.isCancelled_iff sameParent, separate.isCancelled_iff parent,
    separate.isAborted_of_stop isStop ofCaller, isMarked_act_iff registered]
  simp [spared]

end Separate

theorem bonds_run (fleet : Fleet) (actions : List Action) :
    fleet.bonds <+: (fleet.run actions).bonds := by
  induction actions generalizing fleet with
  | nil => exact List.prefix_refl _
  | cons action rest inductionHypothesis =>
      exact (List.prefix_append _ _).trans
        (fleet.bonds_act action ▸ inductionHypothesis (fleet.act action))

/-- A feed keeps its token and its options. -/
theorem exists_member_run (found : fleet.members[index]? = some member) (actions : List Action) :
    ∃ later, (fleet.run actions).members[index]? = some later ∧ later.bond = member.bond := by
  obtain ⟨rest, split⟩ := fleet.bonds_run actions
  have isBond : fleet.bonds[index]? = some member.bond := by
    rw [bonds, List.getElem?_map, found]
    rfl
  have stillBond : (fleet.run actions).bonds[index]? = some member.bond := by
    rw [← split, List.getElem?_append_left (List.getElem?_eq_some_iff.mp isBond).1]
    exact isBond
  rw [bonds, List.getElem?_map] at stillBond
  exact Option.map_eq_some_iff.mp stillBond

/-! ## Calls of a feed -/

/-- A feed that had no dealings with the portal before it was called off never has any. -/
theorem silent_lasting :
    Lasting fun feed _ cancelled =>
      cancelled = true ∧ feed.dealings = [] ∧ feed.stage.holdsBody = false where
  proceeds := by
    rintro feed now cancelled next ⟨rfl, dealings, noBody⟩ proceeding
    obtain rfl := proceeding.eq_callOff
    refine ⟨rfl, ?_, by rw [feed.stage_callOff now]; rfl⟩
    rw [Feed.dealings_callOff, dealings, Feed.handedBack, noBody]
    rfl
  polls := by
    rintro feed now cancelled result next ⟨isCancelled, dealings, noBody⟩ polling
    exact ⟨isCancelled, polling.dealings.trans dealings, polling.looking.stage ▸ noBody⟩
  leaves holds := holds
  calledOff holds := ⟨rfl, holds.2⟩
  later _ holds := holds

/-- No request has gone out whose options were aborted. -/
theorem unaborted_invariant :
    Invariant fun feed _ _ =>
      ∀ entry ∈ feed.log, entry.event ≠ .asked true ∧ ∀ query, entry.event ≠ .posted true query
    where
  opened client portal query options now := nofun
  proceeds := by
    intro feed now cancelled next before proceeding entry mem
    have added : ∀ event : Feed.Event, next.log = feed.log ++ [⟨now, event⟩] ->
        (event ≠ .asked true ∧ ∀ query, event ≠ .posted true query) ->
        entry.event ≠ .asked true ∧ ∀ query, entry.event ≠ .posted true query := by
      intro event log unaborted
      rw [log] at mem
      rcases List.mem_append.mp mem with isOld | isNew
      · exact before entry isOld
      · rw [List.mem_singleton.mp isNew]
        exact unaborted
    rcases proceeding.notes_or_request with
      ⟨events, log, quiet⟩ | ⟨_, _, rfl⟩ | ⟨tip, _, rfl⟩
    · rw [log] at mem
      rcases List.mem_append.mp mem with isOld | isNew
      · exact before entry isOld
      · obtain ⟨event, isEvent, rfl⟩ := List.mem_map.mp isNew
        have noRequest := (quiet event isEvent).1
        refine ⟨?_, fun query => ?_⟩ <;> rintro rfl <;> cases noRequest
    · exact added (.asked false) rfl ⟨nofun, nofun⟩
    · exact added (.posted false _) rfl ⟨nofun, nofun⟩
  polls := by
    intro feed now cancelled result next before polling entry mem
    rw [polling.log] at mem
    rcases List.mem_append.mp mem with isOld | isNew
    · exact before entry isOld
    · obtain ⟨given, _, rfl⟩ := List.mem_map.mp isNew
      exact ⟨nofun, nofun⟩
  leaves holds := holds
  calledOff holds := holds
  later _ holds := holds

/-! ## The feed that is opened -/

section newcomer

variable (fleet) (client : Client) (portal : Portal) (query : Query) (options : StreamOptions)

/-- The feed that is added when one is opened, with its token and its options. -/
def newcomer : Member :=
  let request := client.requestOf options
  let token := (fleet.tokens.create request.abort).1
  ⟨client.feed portal query options, token, request.withAbort token⟩

theorem getElem?_opened :
    (fleet.opened client portal query options).members[fleet.members.length]? =
      some (fleet.newcomer client portal query options) :=
  List.getElem?_concat_length

/-- The token of a new feed is a child of the caller's, and nothing has been done to it. -/
theorem entry_newcomer :
    (fleet.opened client portal query options).tokens.entries[
        (fleet.newcomer client portal query options).token.index]? =
      some ⟨(client.requestOf options).abort, false⟩ :=
  List.getElem?_concat_length

end newcomer

namespace Separate

variable {base : Nat} {client : Client} {portal : Portal} {query : Query}
  {options : StreamOptions} {later : List Action}

/-- A feed is called off exactly if that was done to it since it was opened, or if the caller's
token is cancelled. -/
theorem isCancelled_newcomer_iff
    (separate : (fleet.opened client portal query options).Separate base)
    (bound : (fleet.opened client portal query options).Bound later)
    (isNewcomer : member.bond = (fleet.newcomer client portal query options).bond) :
    ((fleet.opened client portal query options).run later).isCancelled member = true ↔
      (∃ action ∈ later, CallsOff fleet.members.length member.token none action) ∨
        (client.requestOf options).isAborted
          ((fleet.opened client portal query options).run later).tokens = true := by
  have isToken : member.token = (fleet.newcomer client portal query options).token :=
    congrArg Prod.fst isNewcomer
  have entry := fleet.entry_newcomer client portal query options
  have unmarked := Tokens.isMarked_of_found entry
  have marked := separate.isMarked_run_iff_of_member bound
    (fleet.getElem?_opened client portal query options)
  have parent : ((fleet.opened client portal query options).run later).tokens.entries[
      member.token.index]?.map (·.parent) = some (client.requestOf options).abort := by
    obtain ⟨final, isFinal, sameParent, _⟩ := grows_run _ later _ _ entry
    rw [isToken, isFinal, Option.map_some, sameParent]
  rw [(separate.run bound).isCancelled_iff parent, isToken, marked]
  simp only [unmarked, Bool.false_eq_true, false_or]
  rfl

/-- If the caller's token is cancelled when a feed is opened, the feed never has any dealings with
the portal. -/
theorem dealings_of_aborted
    (separate : (fleet.opened client portal query options).Separate base)
    (aborted : (client.requestOf options).isAborted fleet.tokens = true)
    (found : ((fleet.opened client portal query options).run later).members[
      fleet.members.length]? = some member) :
    member.feed.dealings = [] := by
  have parent : (fleet.opened client portal query options).tokens.entries[
      (fleet.newcomer client portal query options).token.index]?.map (·.parent) =
        some (client.requestOf options).abort := by
    rw [entry_newcomer]
    rfl
  have calledOff : (fleet.opened client portal query options).isCancelled
      (fleet.newcomer client portal query options) = true := by
    refine (separate.isCancelled_iff parent).mpr (.inr ?_)
    obtain ⟨above, isAbove, cancelled⟩ := (Option.any_eq_true ..).mp aborted
    exact (Option.any_eq_true ..).mpr ⟨above, isAbove,
      (Tokens.grows_create fleet.tokens (client.requestOf options).abort).isCancelled cancelled⟩
  obtain ⟨same, isSame, _, _, dealings, _⟩ :=
    silent_lasting.run (fleet.getElem?_opened client portal query options)
      ⟨calledOff, rfl, rfl⟩ later
  rw [found] at isSame
  rwa [Option.some.inj isSame]

end Separate

/-- Whatever happens, a feed is called off exactly if that was done to it, by its own methods, by
its own token or by its consumer who goes, or if the token that the caller's options carry is
cancelled. Its requests are bound to its own token and see whether it has been called off, and
none goes out when it has been. If the caller's token is cancelled when the feed is opened, the
feed never has any dealings with the portal.

The token of a caller is cancelled only if it, or one above it, is cancelled by itself. Whatever
is done to one feed, options that carry a caller's token are as before, and so are the other
feeds that were opened with such options. -/
theorem feeds_are_called_off_downwards
    (tokens : Tokens)
    (ordered : tokens.IsOrdered)
    (earlier later : List Action)
    (client : Client) (portal : Portal) (query : Query) (options : StreamOptions)
    (bound : (create tokens).Bound
      (earlier ++ .opened client portal query options :: later)) :
    let actions := earlier ++ .opened client portal query options :: later
    let request := client.requestOf options
    let opening := (create tokens).run earlier
    let index := opening.members.length
    let fleet := (create tokens).run actions
    ∃ member, fleet.members[index]? = some member ∧
      member.request = request.withAbort member.token ∧
      (fleet.isCancelled member = true ↔
        (∃ action ∈ later, CallsOff index member.token none action) ∨
          request.isAborted fleet.tokens = true) ∧
      member.request.isAborted fleet.tokens = fleet.isCancelled member ∧
      (∀ entry ∈ member.feed.log,
        entry.event ≠ .asked true ∧ ∀ query, entry.event ≠ .posted true query) ∧
      (request.isAborted opening.tokens = true -> member.feed.dealings = []) ∧
      (∀ caller, caller.index < tokens.entries.length ->
        (fleet.tokens.isCancelled caller = true ↔
          ∃ above, tokens.IsAbove above caller ∧
            (tokens.isMarked above = true ∨ .cancelToken above ∈ actions))) ∧
      ∀ stop : Action, stop.IsStop index ->
        (∀ shared : RequestOptions,
          (∀ caller, shared.abort = some caller -> caller.index < tokens.entries.length) ->
          shared.isAborted (fleet.act stop).tokens = shared.isAborted fleet.tokens) ∧
        ∀ place other abort, place ≠ index -> fleet.members[place]? = some other ->
          (actions.filterMap Action.abort?)[place]? = some abort ->
          (∀ caller, abort = some caller -> caller.index < tokens.entries.length) ->
          (fleet.act stop).members[place]? = some other ∧
            (fleet.act stop).isCancelled other = fleet.isCancelled other := by
  intro actions request opening index fleet
  obtain ⟨earlierBound, openedBound, laterBound⟩ := (bound_append _ _ _).mp bound
  have start : (create tokens).Separate tokens.entries.length := .create ordered
  have before : opening.Separate tokens.entries.length := start.run earlierBound
  have separateOpened := before.act openedBound
  have separate : fleet.Separate tokens.entries.length := start.run bound
  have isFleet : (opening.opened client portal query options).run later = fleet := by
    simp only [fleet, actions, run_append, run_cons]
    rfl
  obtain ⟨member, isMember, isNewcomer⟩ :=
    exists_member_run (opening.getElem?_opened client portal query options) later
  have found : fleet.members[index]? = some member := isFleet ▸ isMember
  refine ⟨member, found, ?_, ?_, separate.isAborted_request found, ?_, ?_, ?_, ?_⟩
  · obtain ⟨isToken, isRequest⟩ := Prod.mk.inj isNewcomer
    rw [isRequest, isToken]
    rfl
  · have calledOff := separateOpened.isCancelled_newcomer_iff laterBound isNewcomer
    rwa [isFleet] at calledOff
  · exact unaborted_invariant.run tokens actions member (List.mem_of_getElem? found)
  · exact fun aborted => separateOpened.dealings_of_aborted aborted isMember
  · exact fun caller registered => start.isCancelled_iff_of_caller bound registered
  · intro stop isStop
    refine ⟨fun shared ofCaller => separate.isAborted_of_stop isStop ofCaller, ?_⟩
    intro place other abort isOther isThere isAbort ofCaller
    exact ⟨(isStop.getElem?_act fleet isOther).trans isThere,
      separate.isCancelled_of_stop isStop isOther isThere (parent_of_opened isThere isAbort)
        ofCaller⟩

/-- Of two feeds with the caller's token, one that is called off leaves the other alone, and the
caller calls off both. -/
theorem feeds_are_called_off_downwards_of_two_feeds :
    let tokens := (Tokens.empty.create none).2
    let caller : Token := ⟨0⟩
    let opening : Action :=
      .opened ⟨"", "", {}⟩ (.scripted [] []) (.ofSelection (.empty .evm))
        { request := some { abort := some caller } }
    let one := (create tokens).run [opening, opening, .cancel 0]
    let both := (create tokens).run [opening, opening, .cancel 0, .cancelToken caller]
    (∃ member, one.members[1]? = some member ∧ one.isCancelled member = false) ∧
      ∃ member, both.members[1]? = some member ∧ both.isCancelled member = true := by
  intro tokens caller opening one both
  have ordered : tokens.IsOrdered := Tokens.isOrdered_empty.create nofun
  have exists_caller : ∀ above, opening.abort? = some (some above) -> above = caller :=
    fun above isAbove => (Option.some.inj (Option.some.inj isAbove)).symm
  have bound : ∀ rest, (∀ fleet : Fleet, fleet.Bound rest) ->
      (create tokens).Bound (opening :: opening :: rest) := by
    intro rest isBound
    refine ⟨?_, ?_, isBound _⟩ <;>
      · intro above isAbove
        rw [exists_caller above isAbove]
        decide
  refine ⟨?_, ?_⟩
  · obtain ⟨member, found, _, calledOff, _⟩ := feeds_are_called_off_downwards tokens ordered
      [opening] [.cancel 0] ⟨"", "", {}⟩ (.scripted [] []) (.ofSelection (.empty .evm))
      { request := some { abort := some caller } } (bound _ fun _ => ⟨nofun, trivial⟩)
    refine ⟨member, found, Bool.eq_false_iff.mpr fun isCancelled => ?_⟩
    rcases calledOff.mp isCancelled with ⟨action, mem, callsOff⟩ | aborted
    · rw [List.mem_singleton.mp mem] at callsOff
      cases callsOff
    · exact absurd aborted (by decide)
  · obtain ⟨member, found, _, calledOff, _⟩ := feeds_are_called_off_downwards tokens ordered
      [opening] [.cancel 0, .cancelToken caller] ⟨"", "", {}⟩ (.scripted [] [])
      (.ofSelection (.empty .evm)) { request := some { abort := some caller } }
      (bound _ fun _ => ⟨nofun, nofun, trivial⟩)
    exact ⟨member, found, calledOff.mpr (.inr (by decide))⟩

end Fleet
end BlockFeed
