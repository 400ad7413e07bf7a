import BlockFeed.Proofs.Chain
import BlockFeed.Proofs.Feed.Delivery
import BlockFeed.Proofs.Ndjson.Truncation

/-!
# Feeds that are resumed

A portal serves a chain if it brings nothing but the first blocks of what it is
asked for. Any request and any body may fail, and a body may be cut off at any
octet. Whoever opens a feed, leaves it at any moment and opens the next one
behind the last block that was delivered gets the first blocks of the part of
the chain that was asked for at the beginning, each of them once.
-/

namespace BlockFeed

/-- If an answer has a body, the octets of the body that arrive begin a text whose
lines hold first blocks of the part of a chain that a query asks for. -/
def Answer.Serves (answer : Answer Reply) (chain : List Block) (query : Query) : Prop :=
  ∀ reply parts, answer = .ok reply -> reply.status = 200 -> reply.body = some parts ->
    ∃ more blocks, Ndjson.ofBody (Reply.octets parts ++ more) = .ok blocks ∧
      blocks <+: query.part chain

/-- A portal serves a chain to whoever asks for a part of what a query asks for. -/
def Portal.Serves (portal : Portal) (chain : List Block) (query : Query) : Prop :=
  ∀ count cursor,
    (portal.reply count (query.startingAt cursor)).content.Serves chain
      (query.startingAt cursor)

/-- What an answer that serves a chain holds are first blocks of what was asked
for. -/
theorem Answer.Serves.blocks_isPrefix
    {answer : Answer Reply} {chain : List Block} {query : Query}
    (serves : answer.Serves chain query) :
    answer.blocks <+: query.part chain := by
  cases answer with
  | failed fault => exact List.nil_prefix
  | crash => exact List.nil_prefix
  | ok reply =>
      cases status : reply.status == 200 with
      | false =>
          rw [blocks_of_status status]
          exact List.nil_prefix
      | true =>
          cases body : reply.body with
          | none =>
              rw [blocks_of_noBody body]
              exact List.nil_prefix
          | some parts =>
              obtain ⟨more, blocks, isRead, first⟩ :=
                serves reply parts rfl (by simpa using status) body
              rw [blocks_of_body status body]
              exact (Ndjson.readable_completed_isPrefix isRead _).trans first

namespace Feed

/-- The number of the last block of the last batch that the consumer got. -/
def watermark? (feed : Feed) : Option UInt64 :=
  feed.batches.getLast?.bind Batch.last?

/-- The query that goes on behind the last block that the consumer got. -/
def resumption (feed : Feed) : Query :=
  match feed.watermark? with
  | some last => feed.plan.query.startingAt (last + 1)
  | none => feed.plan.query

/-- A feed that is one of a fleet at some moment of some run. -/
def Occurs (feed : Feed) : Prop :=
  ∃ tokens actions, ∃ member ∈ ((Fleet.create tokens).run actions).members,
    member.feed = feed

/-- Feeds that are opened one after the other, the first with a query and each
other one with the resumption of the one before, at portals that serve a
chain. -/
inductive Resumed (chain : List Block) : Query -> List Feed -> Prop
  | done (query : Query) : Resumed chain query []
  | next (feed : Feed) (later : List Feed) :
      feed.Occurs ->
      feed.plan.portal.Serves chain feed.plan.query ->
      Resumed chain feed.resumption later ->
      Resumed chain feed.plan.query (feed :: later)

/-- What a portal that serves a chain holds ready for a feed are first blocks of
what the feed asks for. -/
def InChain (feed : Feed) (chain : List Block) : Prop :=
  feed.plan.portal.Serves chain feed.plan.query ->
    feed.produced <+: feed.plan.query.part chain

variable {feed next : Feed} {chain : List Block} {now : Instant} {cancelled : Bool}

theorem InChain.of_same
    (inChain : feed.InChain chain)
    (plan : next.plan = feed.plan)
    (produced : next.produced = feed.produced) :
    next.InChain chain := by
  unfold InChain at inChain ⊢
  rwa [plan, produced]

/-- A query that is posted goes on behind the blocks that have been gathered. -/
theorem InChain.post
    (isChain : IsChain chain)
    (inChain : feed.InChain chain)
    (underway : feed.Underway [])
    (inStep : feed.cursor = feed.position)
    (now : Instant)
    (tip : BlockRef) :
    (feed.post now false tip).InChain chain := by
  intro serves
  have gathered : feed.gathered = feed.produced := by
    rw [← underway.whole, List.append_nil]
  have before : feed.gathered <+: feed.plan.query.part chain := by
    rw [gathered]
    exact inChain serves
  have after := (serves feed.posted feed.cursor).blocks_isPrefix
  rw [(underway.produced_post now tip).2, ← gathered]
  rw [inStep] at after ⊢
  exact isChain.append_isPrefix before after

/-- At portals that serve a chain, feeds hold ready nothing else at all times. -/
theorem inChain_invariant (isChain : IsChain chain) :
    Fleet.Invariant fun feed _ cancelled => feed.Conserves cancelled ∧ feed.InChain chain where
  opened client portal query options now :=
    ⟨conserves_invariant.opened client portal query options now, fun _ => List.nil_prefix⟩
  proceeds := by
    rintro feed now cancelled next ⟨conserves, inChain⟩ proceeding
    refine ⟨conserves.proceed proceeding, ?_⟩
    rcases proceeding.working_or_post with working | ⟨tip, resolved, rfl⟩
    · exact inChain.of_same working.plan working.produced
    · simp only [Conserves, resolved] at conserves
      exact inChain.post isChain conserves.1 conserves.2 now tip
  polls := by
    rintro feed now cancelled result next ⟨conserves, inChain⟩ polling
    exact ⟨conserves.look polling.looking polling.moves,
      inChain.of_same polling.looking.plan polling.looking.produced⟩
  leaves := by
    rintro feed now cancelled ⟨conserves, inChain⟩
    exact ⟨conserves.look looking_leave (.inl ⟨rfl, rfl⟩), inChain⟩
  calledOff kept := ⟨kept.1.calledOff, kept.2⟩
  later _ kept := kept

/-- The watermark is the number of the last block that was delivered. -/
theorem watermark?_eq (batches : ∀ batch ∈ feed.batches, batch.blocks ≠ []) :
    feed.watermark? = feed.delivered.getLast?.map Block.number := by
  unfold watermark? delivered
  cases isLast : feed.batches.getLast? with
  | none => simp [List.getLast?_eq_none_iff.mp isLast]
  | some last =>
      obtain ⟨earlier, split⟩ := List.getLast?_eq_some_iff.mp isLast
      have someBlocks : last.blocks ≠ [] := batches last (by simp [split])
      obtain ⟨block, isBlock⟩ := Option.ne_none_iff_exists'.mp
        (mt List.getLast?_eq_none_iff.mp someBlocks)
      simp [split, Batch.last?, List.getLast?_append, isBlock]

/-- What a feed has delivered are first blocks of what it asks for, and its
resumption asks for what lies behind them. -/
theorem Occurs.resumption_spec
    (occurs : feed.Occurs)
    (isChain : IsChain chain)
    (serves : feed.plan.portal.Serves chain feed.plan.query) :
    feed.delivered <+: feed.plan.query.part chain ∧
      feed.resumption.part chain =
        (feed.plan.query.startingAt
          ((feed.delivered.getLast?.map Block.successor).getD
            feed.plan.query.firstBlock)).part chain := by
  obtain ⟨tokens, actions, member, mem, rfl⟩ := occurs
  obtain ⟨conserves, inChain⟩ := (inChain_invariant isChain).run tokens actions member mem
  have accountable := accountable_invariant.run tokens actions member mem
  have delivered : member.feed.delivered <+: member.feed.plan.query.part chain :=
    (List.prefix_append _ _).trans (conserves.gathered_isPrefix.trans (inChain serves))
  refine ⟨delivered, ?_⟩
  unfold resumption
  rw [watermark?_eq accountable.batches]
  cases isLast : member.feed.delivered.getLast? with
  | none => rfl
  | some last =>
      have lastMem : last ∈ chain := by
        have inPart := delivered.subset (List.mem_of_getLast? isLast)
        exact (List.mem_filter.mp inPart).1
      have next : last.number + 1 = last.successor := by
        have below := isChain.below last lastMem
        rw [← UInt64.toNat_inj, isChain.toNat_successor lastMem, UInt64.toNat_add]
        exact Nat.mod_eq_of_lt below
      rw [Option.map_some, Option.map_some, Option.getD_some, ← next]

/-- Feeds that are resumed again and again deliver together the first blocks of
what was asked for at the beginning: in ascending order, without a gap and
without a repetition. -/
theorem resumed_feeds_deliver_chain
    {chain : List Block}
    (isChain : IsChain chain)
    {query : Query} {feeds : List Feed}
    (resumed : Resumed chain query feeds) :
    feeds.flatMap delivered <+: query.part chain ∧
      (feeds.flatMap delivered).Pairwise fun left right => left.number < right.number := by
  have initial : feeds.flatMap delivered <+: query.part chain := by
    induction resumed with
    | done query => exact List.nil_prefix
    | next feed later occurs serves _ inductionHypothesis =>
        obtain ⟨delivered, behind⟩ := occurs.resumption_spec isChain serves
        rw [behind] at inductionHypothesis
        rw [List.flatMap_cons]
        exact isChain.append_isPrefix delivered inductionHypothesis
  exact ⟨initial, (isChain.part query).ascending.sublist initial.sublist⟩

/-! ## Two feeds at a chain of two blocks -/

/-- The line of a block that has nothing but a number. -/
def shortLine (digit : String) : Bytes :=
  Bytes.ofString ("\x7b\"header\":\x7b\"number\":" ++ digit ++ "\x7d\x7d\n")

def shortChain : List Block := [⟨⟨1, "", []⟩, []⟩, ⟨⟨2, "", []⟩, []⟩]

/-- The reference to a block, and whether it holds nothing else. -/
def outline (block : Block) : BlockRef × Bool :=
  (block.ref, block.header.extra.isEmpty && block.data.isEmpty)

/-- Blocks that hold nothing but a number are told by their outlines. -/
theorem eq_of_outlines
    {blocks : List Block} {numbers : List UInt64}
    (seen : blocks.map outline = numbers.map fun number => (⟨number, ""⟩, true)) :
    blocks = numbers.map fun number => ⟨⟨number, "", []⟩, []⟩ := by
  induction numbers generalizing blocks with
  | nil => exact List.map_eq_nil_iff.mp seen
  | cons number rest inductionHypothesis =>
      obtain ⟨⟨⟨_, _, extra⟩, data⟩, others, rfl, first, behind⟩ := List.map_eq_cons_iff.mp seen
      simp only [outline, Block.ref, Prod.mk.injEq, BlockRef.mk.injEq, Bool.and_eq_true,
        List.isEmpty_iff] at first
      obtain ⟨⟨rfl, rfl⟩, rfl, rfl⟩ := first
      rw [List.map_cons, inductionHypothesis behind]

/-- The outlines of the blocks in a text tell what is read from it. -/
theorem ofBody_of_outlines
    {body : Bytes} (numbers : List UInt64)
    (seen : (Ndjson.ofBody body).toOption.map (List.map outline) =
      some (numbers.map fun number => (⟨number, ""⟩, true))) :
    Ndjson.ofBody body = .ok (numbers.map fun number => ⟨⟨number, "", []⟩, []⟩) := by
  cases read : Ndjson.ofBody body with
  | error fault =>
      rw [read] at seen
      cases seen
  | ok blocks =>
      rw [read] at seen
      exact congrArg Except.ok (eq_of_outlines (Option.some.inj seen))

/-- A portal whose connection breaks within the line of the second block. -/
def shortPortal : Portal where
  height _ := ⟨0, .ok "9"⟩
  reply _ query :=
    if query.firstBlock = 1 then
      ⟨0, .ok ⟨200, some
        [⟨0, .data (shortLine "1" ++ (shortLine "2").take 9)⟩, ⟨0, .failed (.http "reset")⟩]⟩⟩
    else if query.firstBlock = 2 then
      ⟨0, .ok ⟨200, some [⟨0, .data (shortLine "2")⟩]⟩⟩
    else
      ⟨0, .ok .noContent⟩

def shortClient : Client := ⟨"", "", {}⟩

def shortQuery : Query := ⟨some 1, some 2, .empty .evm⟩

/-- A feed is opened and delivers what comes, and another one goes on behind the
first block. -/
def shortActions : List Fleet.Action :=
  let steps index : List Fleet.Action :=
    List.replicate 5 (.proceed index) ++
      [.poll index, .proceed index, .proceed index, .poll index]
  .opened shortClient shortPortal shortQuery { minBytes := 1 } :: steps 0 ++
    .opened shortClient shortPortal (shortQuery.startingAt 2) { minBytes := 1 } :: steps 1

def shortFleet : Fleet := (Fleet.create .empty).run shortActions

theorem isChain_shortChain : IsChain shortChain where
  ascending := by decide
  below := by decide

theorem serves_shortPortal : shortPortal.Serves shortChain shortQuery := by
  have both : Ndjson.ofBody (shortLine "1" ++ shortLine "2") = .ok shortChain :=
    ofBody_of_outlines [1, 2] (by decide +kernel)
  have second : Ndjson.ofBody (shortLine "2") = .ok shortChain.tail :=
    ofBody_of_outlines [2] (by decide +kernel)
  intro count cursor reply parts isReply status body
  by_cases atFirst : cursor = 1
  · subst atFirst
    obtain rfl := Answer.ok.inj isReply
    obtain rfl := Option.some.inj body
    refine ⟨(shortLine "2").drop 9, shortChain, ?_, [], rfl⟩
    rw [← both]
    simp [Reply.octets]
  · by_cases atSecond : cursor = 2
    · subst atSecond
      obtain rfl := Answer.ok.inj isReply
      obtain rfl := Option.some.inj body
      exact ⟨[], shortChain.tail, second, [], rfl⟩
    · have nothing : shortPortal.reply count (shortQuery.startingAt cursor) =
          ⟨0, .ok .noContent⟩ := by
        simp [shortPortal, atFirst, atSecond]
      rw [nothing] at isReply
      obtain rfl := Answer.ok.inj isReply
      simp [Reply.noContent] at status

theorem resumed_feeds_deliver_short_chain :
    (IsChain shortChain ∧ Resumed shortChain shortQuery (shortFleet.members.map (·.feed))) ∧
      (shortFleet.members.map fun member =>
        (member.feed.delivered.map Block.number, member.feed.hasFailed)) =
          [([1], true), ([2], false)] ∧
      (shortFleet.members.map (·.feed)).flatMap delivered <+: shortQuery.part shortChain ∧
      ((shortFleet.members.map (·.feed)).flatMap delivered).Pairwise
        fun left right => left.number < right.number := by
  have watermarks : shortFleet.members.map (·.feed.watermark?) = [some 1, some 2] := by
    decide +kernel
  have plans : shortFleet.plans =
      [shortQuery, shortQuery.startingAt 2].map (shortClient.plan shortPortal · {}) :=
    Fleet.plans_run .empty shortActions
  have resumed : Resumed shortChain shortQuery (shortFleet.members.map (·.feed)) := by
    rcases members : shortFleet.members with _ | ⟨first, _ | ⟨second, _ | ⟨third, rest⟩⟩⟩ <;>
      simp [members] at watermarks
    simp only [Fleet.plans, members, List.map_cons, List.map_nil] at plans
    obtain ⟨firstPlan, plans⟩ := List.cons.inj plans
    obtain ⟨secondPlan, _⟩ := List.cons.inj plans
    have occurs : ∀ member ∈ shortFleet.members, member.feed.Occurs :=
      fun member mem => ⟨.empty, shortActions, member, mem, rfl⟩
    have firstQuery : first.feed.plan.query = shortQuery := by
      rw [firstPlan]
      rfl
    have secondQuery : second.feed.plan.query = first.feed.resumption := by
      rw [resumption, watermarks.1, firstQuery, secondPlan]
      rfl
    rw [List.map_cons, ← firstQuery]
    refine .next first.feed [second.feed] (occurs first (by simp [members])) ?_ ?_
    · rw [firstPlan]
      exact serves_shortPortal
    · rw [← secondQuery]
      refine .next second.feed [] (occurs second (by simp [members])) ?_ (.done _)
      rw [secondPlan]
      exact serves_shortPortal
  exact ⟨⟨isChain_shortChain, resumed⟩, by decide +kernel,
    resumed_feeds_deliver_chain isChain_shortChain resumed⟩

end Feed
end BlockFeed
