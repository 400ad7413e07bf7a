import BlockFeed.Proofs.Feed.Account

/-!
# Feeds deliver what portals hold ready

At every moment the consumer has got an initial part of what the portal holds
ready, in batches that are never empty. If it was told that the feed has ended
and not that it has failed, and nobody called the feed off, it has got all of
it.
-/

namespace BlockFeed
namespace Feed

/-- What the consumer was told is so, and no unit is empty. -/
structure Accountable (feed : Feed) : Prop where
  unit : ∀ unit, feed.buffer.pending = some unit -> unit.blocks ≠ []
  batches : ∀ batch ∈ feed.batches, batch.blocks ≠ []
  reported : feed.buffer.phase = .failed none -> feed.hasFailed = true
  warned : feed.consumer = .warned -> feed.hasFailed = true
  ended : feed.hasEnded = true ->
    (feed.buffer.phase = .closed ∧ feed.buffer.pending = none) ∨ feed.hasFailed = true

namespace Accountable

variable {feed next : Feed} {now : Instant}

/-- What the loop does leaves the consumer well informed. -/
theorem fed (accountable : feed.Accountable) (feeding : feed.Feeding now next) :
    next.Accountable where
  unit := feeding.buffer.unit_ne_nil accountable.unit
  batches := by
    rw [Feed.batches, feeding.yields]
    exact accountable.batches
  reported isReported := by
    rw [hasFailed, feeding.yields]
    exact accountable.reported (feeding.buffer.reported isReported)
  warned isWarned := by
    rw [hasFailed, feeding.yields]
    exact accountable.warned (feeding.consumer.symm.trans isWarned)
  ended hasEnded := by
    rw [Feed.hasEnded, feeding.yields] at hasEnded
    rw [hasFailed, feeding.yields]
    rcases accountable.ended hasEnded with ⟨closed, nothing⟩ | hasFailed
    · obtain ⟨phase, pending⟩ := feeding.buffer.of_ended (by simp [closed])
      exact .inl ⟨phase.trans closed, pending.trans nothing⟩
    · exact .inr hasFailed

/-- Handing something to the consumer keeps the account if it is so. -/
theorem handedOut
    (accountable : feed.Accountable)
    {result : Yield} {consumer : Consumer} {buffer : Buffer Block}
    (unit : ∀ unit, buffer.pending = some unit -> unit.blocks ≠ [])
    (batch : ∀ batch, result = .batch batch -> batch.blocks ≠ [])
    (reported : buffer.phase = .failed none ->
      feed.hasFailed = true ∨ result.isFailure = true)
    (warned : consumer = .warned -> feed.hasFailed = true ∨ result.isFailure = true)
    (ended : feed.hasEnded = true ∨ result.isEnd = true ->
      (buffer.phase = .closed ∧ buffer.pending = none) ∨ feed.hasFailed = true ∨
        result.isFailure = true) :
    (feed.handedOut now result consumer buffer).Accountable := by
  have yields : (feed.handedOut now result consumer buffer).yields =
      feed.yields ++ [result] :=
    feed.yields_record now (.yielded result)
  have hasFailed : (feed.handedOut now result consumer buffer).hasFailed = true ↔
      feed.hasFailed = true ∨ result.isFailure = true := by
    rw [Feed.hasFailed, yields]
    simp [Feed.hasFailed]
  have hasEnded : (feed.handedOut now result consumer buffer).hasEnded = true ↔
      feed.hasEnded = true ∨ result.isEnd = true := by
    rw [Feed.hasEnded, yields]
    simp [Feed.hasEnded]
  refine ⟨unit, ?_, ?_, ?_, ?_⟩
  · intro handed mem
    rw [Feed.batches, yields, List.filterMap_append] at mem
    rcases List.mem_append.mp mem with isOld | isNew
    · exact accountable.batches handed isOld
    · cases result with
      | batch value =>
          have isValue : handed = value := by simpa [Yield.batch?] using isNew
          exact isValue ▸ batch value rfl
      | _ => simp [Yield.batch?] at isNew
  · intro isReported
    exact hasFailed.mpr (reported isReported)
  · intro isWarned
    exact hasFailed.mpr (warned isWarned)
  · intro isEnded
    rw [hasFailed]
    exact ended (hasEnded.mp isEnded)

/-- What the consumer gets is so. -/
theorem poll
    (accountable : feed.Accountable)
    {result : Option Yield}
    (polling : feed.Polling now result next) :
    next.Accountable := by
  cases polling with
  | unrepresentable =>
      exact accountable.handedOut accountable.unit nofun
        (fun reported => .inl (accountable.reported reported)) nofun
        (by simpa [Yield.isEnd, Yield.isFailure] using accountable.ended)
  | took deadline blocks rest _ taking =>
      cases taking with
      | remainder unit closed pending =>
          refine accountable.handedOut nofun ?_ ?_ nofun ?_
          · intro batch isBatch
            rw [← Yield.batch.inj isBatch]
            exact accountable.unit unit pending
          · simp [closed]
          · exact fun _ => .inl ⟨closed, rfl⟩
      | release unit idle running pending =>
          refine accountable.handedOut nofun ?_ ?_ nofun ?_
          · intro batch isBatch
            rw [← Yield.batch.inj isBatch]
            exact accountable.unit unit pending
          · simp [Buffer.drained, running]
          · intro ended
            have hasEnded : feed.hasEnded = true := by simpa [Yield.isEnd] using ended
            rcases accountable.ended hasEnded with ⟨closed, _⟩ | hasFailed
            · simp [running] at closed
            · exact .inr (.inl hasFailed)
  | ended deadline rest _ taking =>
      cases taking with
      | silent failed =>
          have hasFailed := accountable.reported failed
          exact accountable.handedOut nofun nofun (fun _ => .inl hasFailed) nofun
            (fun _ => .inr (.inl hasFailed))
      | ended closed =>
          exact accountable.handedOut nofun nofun (by simp [closed]) nofun
            (fun _ => .inl ⟨closed, rfl⟩)
  | failed deadline fault rest _ taking =>
      cases taking with
      | reported =>
          exact accountable.handedOut nofun nofun (fun _ => .inr rfl) (fun _ => .inr rfl)
            (fun _ => .inr (.inr rfl))
  | overflowed deadline rest _ taking =>
      cases taking with
      | overflow =>
          exact accountable.handedOut accountable.unit nofun
            (fun reported => .inl (accountable.reported reported)) nofun
            (by simpa [Yield.isEnd, Yield.isFailure] using accountable.ended)
  | waited deadline wake rest _ taking =>
      cases taking with
      | waiting =>
          exact ⟨accountable.unit, accountable.batches, accountable.reported, nofun,
            accountable.ended⟩
  | warned isWarned =>
      have hasFailed := accountable.warned isWarned
      exact accountable.handedOut accountable.unit nofun (fun _ => .inl hasFailed) nofun
        (fun _ => .inr (.inl hasFailed))
  | silent => exact accountable

end Accountable

/-- Every consumer is well informed at all times. -/
theorem accountable_invariant : Fleet.Invariant fun feed _ _ => feed.Accountable where
  opened _ _ _ _ _ := ⟨nofun, nofun, nofun, nofun, nofun⟩
  proceeds accountable proceeding := accountable.fed proceeding.feeding
  polls accountable polling := accountable.poll polling
  leaves accountable :=
    ⟨accountable.unit, accountable.batches, accountable.reported, nofun, accountable.ended⟩
  calledOff accountable := accountable
  later _ accountable := accountable

end Feed

namespace Fleet

/-- At every moment of every run, each consumer has got an initial part of what
its portal holds ready, in batches that are not empty; and if it was told that
the feed has ended but not that it has failed, the feed was not called off and
the portal never said that a request was, then it has got all of it. -/
theorem feeds_deliver_what_portals_hold (tokens : Tokens) (actions : List Action) :
    let fleet := (create tokens).run actions
    ∀ member ∈ fleet.members,
      member.feed.delivered <+: member.feed.produced ∧
        (∀ batch ∈ member.feed.batches, batch.blocks ≠ []) ∧
        (member.feed.hasEnded = true -> member.feed.hasFailed = false ->
          fleet.isCancelled member = false -> ¬member.feed.HearsCancellation ->
          member.feed.delivered = member.feed.produced) := by
  intro fleet member mem
  have conserves := Feed.conserves_invariant.run tokens actions member mem
  have accountable := Feed.accountable_invariant.run tokens actions member mem
  refine ⟨?_, accountable.batches, ?_⟩
  · exact (List.prefix_append _ _).trans conserves.gathered_isPrefix
  · intro hasEnded hasNotFailed notCancelled hearsNothing
    rw [show fleet.isCancelled member = false from notCancelled] at conserves
    rcases accountable.ended hasEnded with ⟨closed, nothing⟩ | hasFailed
    · rw [← conserves.gathered_of_closed closed hearsNothing, Feed.gathered,
        Buffer.pendingBlocks_of_none nothing, List.append_nil]
    · simp [hasNotFailed] at hasFailed

/-- The body of a reply arrives in two parts, and the feed ends at the head. -/
example :
    let parts : List (Timed Item) :=
      ["\x7b\"header\":\x7b\"num", "ber\":7\x7d\x7d"].map fun text =>
        ⟨0, .data (Bytes.ofString text)⟩
    let portal := Portal.scripted [] [⟨0, .ok ⟨200, some parts⟩⟩]
    let fleet := (create .empty).run <|
      [.opened ⟨"", "", {}⟩ portal (.ofSelection (.empty .evm)) { stopAtHead := true }] ++
        List.replicate 12 (.proceed 0) ++ [.poll 0, .poll 0]
    fleet.members.map (fun member =>
      (member.feed.delivered.map Block.number, member.feed.hasEnded, member.feed.hasFailed)) =
        [([7], true, false)] := by
  decide +kernel

end Fleet
end BlockFeed
