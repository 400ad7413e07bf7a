import BlockFeed.Query

/-!
# Chains and the parts that queries ask for

The blocks of a chain have ascending numbers, none of which is the greatest.
Whoever has the first blocks of the part of a chain that a query asks for gets
the rest by asking for what lies behind the last one.
-/

namespace BlockFeed

/-- The successor of a block has the next number, but for the greatest one. -/
theorem Block.toNat_successor (block : Block) :
    block.successor.toNat = min (block.number.toNat + 1) (UInt64.size - 1) := by
  have bound : block.number.toNat < UInt64.size := block.number.toNat_lt_size
  have sum : (block.number + 1).toNat = (block.number.toNat + 1) % UInt64.size := by
    rw [UInt64.toNat_add]
    rfl
  have isZero : block.number + 1 = 0 ↔ (block.number.toNat + 1) % UInt64.size = 0 := by
    rw [← sum, ← UInt64.toNat_inj]
    rfl
  by_cases greatest : block.number.toNat + 1 = UInt64.size
  · have wraps : (block.number + 1 == 0) = true := by
      rw [beq_iff_eq, isZero, greatest, Nat.mod_self]
    rw [successor, if_pos wraps]
    omega
  · have below : block.number.toNat + 1 < UInt64.size := by omega
    have grows : ¬(block.number + 1 == 0) = true := by
      rw [beq_iff_eq, isZero, Nat.mod_eq_of_lt below]
      exact Nat.succ_ne_zero _
    rw [successor, if_neg grows, sum, Nat.mod_eq_of_lt below]
    omega

namespace Query

/-- Whether a block number lies in the range of a query. -/
def covers (query : Query) (number : UInt64) : Bool :=
  query.firstBlock ≤ number && query.reaches number

/-- The part of a chain that a query asks for. -/
def part (query : Query) (chain : List Block) : List Block :=
  chain.filter fun block => query.covers block.number

end Query

/-- A chain of blocks with ascending numbers, none of which is the greatest
number of 64 bits. -/
structure IsChain (chain : List Block) : Prop where
  ascending : chain.Pairwise fun left right => left.number < right.number
  below : ∀ block ∈ chain, block.number.toNat + 1 < UInt64.size

namespace IsChain

variable {chain : List Block}

theorem part (isChain : IsChain chain) (query : Query) : IsChain (query.part chain) where
  ascending := isChain.ascending.filter _
  below block mem := isChain.below block (List.mem_filter.mp mem).1

/-- Below the greatest number, the successor of a block is the next number. -/
theorem toNat_successor
    (isChain : IsChain chain)
    {block : Block}
    (mem : block ∈ chain) :
    block.successor.toNat = block.number.toNat + 1 := by
  have below := isChain.below block mem
  rw [block.toNat_successor]
  omega

/-- Behind the last of some first blocks of a part lies the rest of it. -/
theorem part_startingAt
    (isChain : IsChain chain)
    {query : Query} {before : List Block} {last : Block} {rest : List Block}
    (split : query.part chain = before ++ last :: rest) :
    (query.startingAt last.successor).part chain = rest := by
  have partIsChain := isChain.part query
  rw [split] at partIsChain
  have lastMem : last ∈ before ++ last :: rest := by simp
  have successor := partIsChain.toNat_successor lastMem
  have lastCovered : query.covers last.number = true := by
    have mem : last ∈ query.part chain := split ▸ lastMem
    exact (List.mem_filter.mp mem).2
  -- What lies behind the last block is what the query covers behind it.
  have narrowed : (query.startingAt last.successor).part chain =
      (query.part chain).filter fun block => last.successor ≤ block.number := by
    rw [Query.part, Query.part, List.filter_filter]
    refine List.filter_congr ?_
    intro block _
    simp only [Query.covers, Query.firstBlock_startingAt, Query.reaches,
      Query.toBlock_startingAt, Bool.and_eq_true, decide_eq_true_eq] at lastCovered ⊢
    by_cases behind : last.successor ≤ block.number
    · have first : query.firstBlock ≤ block.number := by
        have start := UInt64.le_iff_toNat_le.mp lastCovered.1
        have next := UInt64.le_iff_toNat_le.mp behind
        exact UInt64.le_iff_toNat_le.mpr (by omega)
      simp [behind, first]
    · simp [behind]
  rw [narrowed, split, List.filter_append]
  obtain ⟨_, ascendingBehind, apart⟩ := List.pairwise_append.mp partIsChain.ascending
  obtain ⟨lastBelow, _⟩ := List.pairwise_cons.mp ascendingBehind
  have noneBefore : (before.filter fun block => last.successor ≤ block.number) = [] := by
    rw [List.filter_eq_nil_iff]
    intro block mem
    have earlier := UInt64.lt_iff_toNat_lt.mp (apart block mem last (by simp))
    simp only [decide_eq_true_eq, UInt64.le_iff_toNat_le]
    omega
  have notLast : decide (last.successor ≤ last.number) = false := by
    rw [decide_eq_false_iff_not, UInt64.le_iff_toNat_le]
    omega
  have allBehind : (rest.filter fun block => last.successor ≤ block.number) = rest := by
    rw [List.filter_eq_self]
    intro block mem
    have later := UInt64.lt_iff_toNat_lt.mp (lastBelow block mem)
    rw [decide_eq_true_eq, UInt64.le_iff_toNat_le]
    omega
  rw [noneBefore, List.filter_cons_of_neg (by simp [notLast]), allBehind, List.nil_append]

/-- First blocks of a part, followed by first blocks of what lies behind them, are
first blocks of the part. -/
theorem append_isPrefix
    (isChain : IsChain chain)
    {query : Query} {before after : List Block}
    (first : before <+: query.part chain)
    (next : after <+:
      (query.startingAt ((before.getLast?.map Block.successor).getD query.firstBlock)).part
        chain) :
    before ++ after <+: query.part chain := by
  cases isLast : before.getLast? with
  | none =>
      rw [isLast] at next
      rw [List.getLast?_eq_none_iff.mp isLast, List.nil_append]
      exact next
  | some last =>
      obtain ⟨earlier, rfl⟩ := List.getLast?_eq_some_iff.mp isLast
      obtain ⟨rest, split⟩ := first
      rw [List.append_assoc] at split
      rw [isLast] at next
      have behind := isChain.part_startingAt split.symm
      rw [Option.map_some, Option.getD_some, behind] at next
      rw [← split, List.append_assoc]
      exact (List.prefix_append_right_inj _).mpr ((List.prefix_append_right_inj _).mpr next)

end IsChain
end BlockFeed
