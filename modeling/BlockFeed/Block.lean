import BlockFeed.Json.Value

/-!
# Blocks

Of a block only the number and the hash in its header matter here. Whatever
else its header and its data hold is carried along unchanged.
-/

namespace BlockFeed

/-- A block named by its number and hash. -/
structure BlockRef where
  number : UInt64
  hash : String
  deriving DecidableEq, Repr

/-- The header of a block. -/
structure BlockHeader where
  number : UInt64
  /-- The hash, or an empty text where it was not asked for. -/
  hash : String
  /-- Whatever else the header holds, sorted by key. -/
  extra : Json.Members
  deriving BEq

/-- A block with its opaque data. -/
structure Block where
  header : BlockHeader
  /-- Everything beside the header, sorted by key. -/
  data : Json.Members
  deriving BEq

/-- Blocks that are delivered together. -/
structure Batch where
  blocks : List Block
  /-- The finalized tip that was known when they were asked for. -/
  finalizedHead : Option BlockRef
  deriving BEq

namespace BlockRef

/-- How a block is named to a reader; an empty hash is left out. -/
def describe (reference : BlockRef) : String :=
  if reference.hash.isEmpty then "#" ++ toString reference.number.toNat
  else "#" ++ toString reference.number.toNat ++ " (" ++ reference.hash ++ ")"

end BlockRef

namespace Block

/-- The height of a block. -/
def number (block : Block) : UInt64 := block.header.number

/-- The reference to a block. -/
def ref (block : Block) : BlockRef := ⟨block.header.number, block.header.hash⟩

/-- The number that follows a block's own; the greatest number follows
itself. -/
def successor (block : Block) : UInt64 :=
  if block.number + 1 == 0 then block.number else block.number + 1

end Block

namespace Batch

/-- The number of the first block. -/
def first? (batch : Batch) : Option UInt64 :=
  batch.blocks.head?.map Block.number

/-- The number of the last block: the watermark behind which to resume. -/
def last? (batch : Batch) : Option UInt64 :=
  batch.blocks.getLast?.map Block.number

end Batch
end BlockFeed
