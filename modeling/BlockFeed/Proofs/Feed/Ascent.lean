import BlockFeed.Proofs.Chain
import BlockFeed.Proofs.Feed.Requests
import Mathlib.Data.List.Induction

/-!
# Queries that a portal fills

A portal fills a query if it answers it, wherever in its range it begins, with blocks that
ascend within the range that is left, and with at least one. If the query ends below the
greatest number, each reply then moves the cursor up: the queries that a feed posts begin
at ascending blocks, the blocks that it hands out ascend as well, and there are no more
queries than blocks in the range. At the greatest number the cursor cannot move up, and
a feed asks for the last block again.
-/

namespace BlockFeed

/-- A portal answers a query, wherever in its range it begins, with one block at least, and
with ascending blocks in the range that is left. -/
def Portal.Fills (portal : Portal) (query : Query) : Prop :=
  ∀ (count : Nat) (cursor : UInt64), query.covers cursor = true ->
    ∃ blocks, (portal.reply count (query.startingAt cursor)).content.blocks? = some blocks ∧
      blocks ≠ [] ∧ blocks.Pairwise (fun left right => left.number < right.number) ∧
      ∀ block ∈ blocks, (query.startingAt cursor).covers block.number = true

/-- A portal that answers with the one block that is asked for fills the query. -/
theorem Portal.fills_of_single
    {portal : Portal} {query : Query}
    (single : ∀ (count : Nat) (cursor : UInt64), query.covers cursor = true ->
      (portal.reply count (query.startingAt cursor)).content.blocks?.map
        (List.map Block.number) = some [cursor]) :
    portal.Fills query := by
  intro count cursor covers
  obtain ⟨blocks, isRead, numbers⟩ := Option.map_eq_some_iff.mp (single count cursor covers)
  obtain ⟨block, rfl, isCursor⟩ := List.map_eq_singleton_iff.mp numbers
  refine ⟨[block], isRead, List.cons_ne_nil _ _, List.pairwise_singleton _ _, ?_⟩
  intro other mem
  rw [List.mem_singleton.mp mem, isCursor]
  have reaches := ((Bool.and_eq_true _ _).mp covers).2
  exact (Bool.and_eq_true _ _).mpr ⟨decide_eq_true (UInt64.le_refl cursor), reaches⟩

namespace Feed
namespace Plan

/-- The query ends at a block below the greatest number, and the portal fills it. -/
structure IsFilledUpTo (plan : Plan) (last : UInt64) : Prop where
  fills : plan.portal.Fills plan.query
  ends : plan.query.toBlock = some last
  first : plan.query.firstBlock ≤ last
  below : last.toNat + 1 < UInt64.size

/-- Queries that are posted in turn and what the portal holds ready for them ascend towards
the block at which the next query begins. -/
structure Ascends (plan : Plan) (last : UInt64) (posts : List Query) : Prop where
  queries : posts.Pairwise fun earlier later => earlier.firstBlock < later.firstBlock
  below : ∀ query ∈ posts, query.firstBlock < plan.cursorBehind posts
  blocks : ((plan.answersTo posts).flatMap Answer.blocks).Pairwise
    fun left right => left.number < right.number
  blocksBelow : ∀ block ∈ (plan.answersTo posts).flatMap Answer.blocks,
    block.number < plan.cursorBehind posts
  count : plan.query.firstBlock.toNat + posts.length ≤ (plan.cursorBehind posts).toNat
  within : (plan.cursorBehind posts).toNat ≤ last.toNat + 1

variable {plan : Plan} {last : UInt64} {posts : List Query}

theorem IsFilledUpTo.reaches_iff (filled : plan.IsFilledUpTo last) (number : UInt64) :
    plan.query.reaches number = true ↔ number ≤ last := by
  simp [Query.reaches, filled.ends]

/-- Before anything is posted, the cursor stands at the first block. -/
theorem ascends_nil (filled : plan.IsFilledUpTo last) : plan.Ascends last [] where
  queries := .nil
  below := nofun
  blocks := .nil
  blocksBelow := nofun
  count := Nat.le_refl _
  within := by
    have first := UInt64.le_iff_toNat_le.mp filled.first
    change plan.query.firstBlock.toNat ≤ last.toNat + 1
    omega

/-- The query covers the block at which the next query begins, if it reaches it. -/
theorem Ascends.covers
    (ascends : plan.Ascends last posts)
    (reaches : plan.query.reaches (plan.cursorBehind posts) = true) :
    plan.query.covers (plan.cursorBehind posts) = true := by
  have first : plan.query.firstBlock ≤ plan.cursorBehind posts :=
    UInt64.le_iff_toNat_le.mpr (Nat.le_trans (Nat.le_add_right _ _) ascends.count)
  simp [Query.covers, first, reaches]

/-- One more query keeps everything ascending. -/
theorem Ascends.concat
    (ascends : plan.Ascends last posts)
    (filled : plan.IsFilledUpTo last)
    (reaches : plan.query.reaches (plan.cursorBehind posts) = true) :
    plan.Ascends last (posts ++ [plan.query.startingAt (plan.cursorBehind posts)]) := by
  generalize isCursor : plan.cursorBehind posts = cursor at reaches
  obtain ⟨blocks, isRead, someBlocks, ascending, inRange⟩ :=
    filled.fills posts.length cursor (isCursor ▸ ascends.covers (isCursor ▸ reaches))
  have isAnswer := Answer.blocks_of_blocks? isRead
  have behind : ∀ block ∈ blocks, cursor ≤ block.number ∧ block.number ≤ last := by
    intro block mem
    obtain ⟨fromCursor, upTo⟩ := (Bool.and_eq_true _ _).mp (inRange block mem)
    exact ⟨of_decide_eq_true fromCursor, (filled.reaches_iff block.number).mp upTo⟩
  -- The last block of the reply bounds the others, and the cursor moves right behind it.
  obtain ⟨final, isFinal⟩ : ∃ final, blocks.getLast? = some final :=
    Option.ne_none_iff_exists'.mp fun none => someBlocks (List.getLast?_eq_none_iff.mp none)
  obtain ⟨before, rfl⟩ := List.getLast?_eq_some_iff.mp isFinal
  obtain ⟨atCursor, upToLast⟩ := behind final (by simp)
  have moved : plan.cursorBehind (posts ++ [plan.query.startingAt cursor]) =
      final.successor := by
    rw [cursorBehind_concat, isAnswer, isFinal]
    rfl
  have low := UInt64.le_iff_toNat_le.mp atCursor
  have high := UInt64.le_iff_toNat_le.mp upToLast
  have bound := filled.below
  have next : final.successor.toNat = final.number.toNat + 1 := by
    rw [Block.toNat_successor]
    omega
  have rises : cursor < final.successor := UInt64.lt_iff_toNat_lt.mpr (by omega)
  have answers : (plan.answersTo (posts ++ [plan.query.startingAt cursor])).flatMap
      Answer.blocks = (plan.answersTo posts).flatMap Answer.blocks ++ (before ++ [final]) := by
    rw [answersTo_append_cons, List.flatMap_append, List.flatMap_cons, isAnswer]
    simp
  have ofReply : ∀ block ∈ before ++ [final], block.number < final.successor := by
    intro block mem
    rw [UInt64.lt_iff_toNat_lt, next]
    rcases List.mem_append.mp mem with isBefore | isLast
    · have earlier := (List.pairwise_append.mp ascending).2.2 block isBefore final (by simp)
      have lower := UInt64.lt_iff_toNat_lt.mp earlier
      omega
    · rw [List.mem_singleton.mp isLast]
      omega
  refine ⟨?_, ?_, ?_, ?_, ?_, ?_⟩
  · refine List.pairwise_append.mpr ⟨ascends.queries, List.pairwise_singleton _ _, ?_⟩
    intro query mem posted isPosted
    rw [List.mem_singleton.mp isPosted, Query.firstBlock_startingAt, ← isCursor]
    exact ascends.below query mem
  · intro query mem
    rw [moved]
    rcases List.mem_append.mp mem with isOld | isNew
    · exact UInt64.lt_trans (isCursor ▸ ascends.below query isOld) rises
    · rw [List.mem_singleton.mp isNew, Query.firstBlock_startingAt]
      exact rises
  · rw [answers]
    refine List.pairwise_append.mpr ⟨ascends.blocks, ascending, ?_⟩
    intro block isOld other isNew
    exact UInt64.lt_of_lt_of_le (isCursor ▸ ascends.blocksBelow block isOld)
      (behind other isNew).1
  · rw [answers, moved]
    intro block mem
    rcases List.mem_append.mp mem with isOld | isNew
    · exact UInt64.lt_trans (isCursor ▸ ascends.blocksBelow block isOld) rises
    · exact ofReply block isNew
  · have count := ascends.count
    rw [isCursor] at count
    rw [moved, next, List.length_append, List.length_singleton]
    omega
  · rw [moved, next]
    omega

end Plan

variable {feed : Feed} {last : UInt64} {cancelled : Bool}

/-- The queries that a feed has posted ascend, and so does what the portal holds ready for
them. -/
theorem Bounded.ascends
    (bounded : feed.Bounded)
    (filled : feed.plan.IsFilledUpTo last) :
    feed.plan.Ascends last feed.posts := by
  have first : ∀ earlier later, feed.posts = earlier ++ later ->
      feed.plan.Ascends last earlier := by
    intro earlier
    induction earlier using List.reverseRecOn with
    | nil => exact fun _ _ => Plan.ascends_nil filled
    | append_singleton earlier query inductionHypothesis =>
        intro later split
        rw [List.append_assoc, List.singleton_append] at split
        obtain ⟨reaches, rfl⟩ := bounded.reaches_and_post split
        exact (inductionHypothesis _ split).concat filled reaches
  exact first feed.posts [] (List.append_nil _).symm

/-- What the consumer got is an initial part of what the portal holds ready. -/
theorem Conserves.delivered_isPrefix (conserves : feed.Conserves cancelled) :
    feed.delivered <+: (feed.plan.answersTo feed.posts).flatMap Answer.blocks :=
  (List.prefix_append feed.delivered feed.buffer.pendingBlocks).trans
    conserves.gathered_isPrefix

end Feed
end BlockFeed
