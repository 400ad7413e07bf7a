import BlockFeed.Block.Document
import BlockFeed.Fault
import BlockFeed.Line

/-!
# Blocks in lines

A portal sends one block in each line. Blank lines carry nothing, and the first
line that is not a block spoils everything behind it.
-/

namespace BlockFeed
namespace Ndjson

/-- The block that a line holds. -/
def block (line : Bytes) : Except Fault Block :=
  match Block.read line with
  | .ok block => .ok block
  | .error problem => .error (.malformed line problem)

/-- The lines that carry something. -/
def carrying (lines : List Bytes) : List Bytes :=
  lines.filter fun line => !Line.isBlank line

/-- The blocks of a group of lines. -/
def blocks (lines : List Bytes) : Except Fault (List Block) :=
  (carrying lines).mapM block

/-- What a group of lines contributes: its blocks and the size of the lines that
carry them. -/
structure Portion where
  blocks : List Block
  bytes : Nat
  deriving BEq

/-- What a group of lines contributes. -/
def portion (lines : List Bytes) : Except Fault Portion :=
  (blocks lines).map fun blocks => ⟨blocks, (carrying lines).flatten.length⟩

/-- The first number behind the blocks of a portion, where `cursor` is the first
one behind those before it. -/
def Portion.cursorBehind (portion : Portion) (cursor : UInt64) : UInt64 :=
  (portion.blocks.getLast?.map Block.successor).getD cursor

/-- The blocks of a whole body. -/
def ofBody (body : Bytes) : Except Fault (List Block) :=
  blocks (Line.pieces body)

end Ndjson
end BlockFeed
