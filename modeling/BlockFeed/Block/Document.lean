import BlockFeed.Block
import BlockFeed.Json.Skip

/-!
# The JSON form of blocks

A header lists its number, its hash and then the rest in sorted order; a block
lists its header and then its data. When they are read back, the fields may
come in any order, but each of them only once. A reference has two fields and
may also be given as an array of both.
-/

namespace BlockFeed

/-- The value of a number of 64 bits. -/
def Json.Value.ofUInt64 (value : UInt64) : Json.Value :=
  .number (.natural value)

namespace BlockRef

/-- The JSON form of a reference. -/
def toValue (reference : BlockRef) : Json.Value :=
  .object [("number", .ofUInt64 reference.number), ("hash", .string reference.hash)]

end BlockRef

namespace BlockHeader

/-- The JSON form of a header. -/
def toValue (header : BlockHeader) : Json.Value :=
  .object (("number", .ofUInt64 header.number) ::
    ("hash", .string header.hash) :: header.extra)

end BlockHeader

namespace Block

/-- The JSON form of a block. -/
def toValue (block : Block) : Json.Value :=
  .object (("header", block.header.toValue) :: block.data)

end Block

open Json

namespace BlockHeader

/-- The fields of a header that have been read so far. -/
structure Draft where
  number : Option UInt64 := none
  hash : Option String := none
  /-- The other members, the latest first. -/
  others : Members := []

/-- Read one member of a header behind its key, with `levels` levels left for
its value. -/
def readMember (levels : Nat) (draft : Draft) (key : String) : Reader Draft := do
  if key == "number" then
    if draft.number.isSome then Reader.fail (.duplicateField "number")
    Reader.colon
    return { draft with number := some (← Reader.natural) }
  else if key == "hash" then
    if draft.hash.isSome then Reader.fail (.duplicateField "hash")
    Reader.colon
    return { draft with hash := some (← Reader.string "a string") }
  else
    Reader.colon
    return { draft with others := (key, ← Reader.value levels) :: draft.others }

/-- The header whose fields have been read. -/
def ofDraft (draft : Draft) : Except Problem BlockHeader :=
  match draft.number with
  | some number =>
      .ok ⟨number, draft.hash.getD "", Members.sorted draft.others.reverse⟩
  | none => .error (.missingField "number")

/-- Read a header with `levels` levels left. -/
def reader (levels : Nat) : Reader BlockHeader := do
  let draft ← Reader.object levels "struct BlockHeader" (readMember (levels - 1)) {}
  liftM (ofDraft draft)

end BlockHeader

namespace Block

/-- The fields of a block that have been read so far. -/
structure Draft where
  header : Option BlockHeader := none
  /-- The other members, the latest first. -/
  others : Members := []

/-- Read one member of a block behind its key, with `levels` levels left for
its value. -/
def readMember (levels : Nat) (draft : Draft) (key : String) : Reader Draft := do
  if key == "header" then
    if draft.header.isSome then Reader.fail (.duplicateField "header")
    Reader.colon
    return { draft with header := some (← BlockHeader.reader levels) }
  else
    Reader.colon
    return { draft with others := (key, ← Reader.value levels) :: draft.others }

/-- The block whose fields have been read. -/
def ofDraft (draft : Draft) : Except Problem Block :=
  match draft.header with
  | some header => .ok ⟨header, Members.sorted draft.others.reverse⟩
  | none => .error (.missingField "header")

/-- Read a block with `levels` levels left. -/
def reader (levels : Nat) : Reader Block := do
  let draft ← Reader.object levels "struct Block" (readMember (levels - 1)) {}
  liftM (ofDraft draft)

end Block

namespace BlockRef

/-- The fields of a reference that have been read so far. -/
structure Draft where
  number : Option UInt64 := none
  hash : Option String := none

/-- What a message calls a reference. -/
def expected : String := "struct BlockRef"

/-- Read one member of a reference behind its key. Unknown members are passed
over. -/
def readMember (draft : Draft) (key : String) : Reader Draft := do
  if key == "number" then
    if draft.number.isSome then Reader.fail (.duplicateField "number")
    Reader.colon
    return { draft with number := some (← Reader.natural) }
  else if key == "hash" then
    if draft.hash.isSome then Reader.fail (.duplicateField "hash")
    Reader.colon
    return { draft with hash := some (← Reader.string "a string") }
  else
    Reader.colon
    Reader.skip
    return draft

/-- The reference whose fields have been read. -/
def ofDraft (draft : Draft) : Except Problem BlockRef :=
  match draft.number, draft.hash with
  | some number, some hash => .ok ⟨number, hash⟩
  | none, _ => .error (.missingField "number")
  | _, none => .error (.missingField "hash")

/-- Read a reference from an array of its two fields. -/
def readElements (levels : Nat) : Reader BlockRef := do
  Reader.enter levels
  match ← Reader.element? true Reader.natural with
  | none => Reader.fail (.invalidLength 0 (expected ++ " with 2 elements"))
  | some number =>
      match ← Reader.element? false (Reader.string "a string") with
      | none => Reader.fail (.invalidLength 1 (expected ++ " with 2 elements"))
      | some hash =>
          Reader.closeList
          return ⟨number, hash⟩

/-- Read a reference with `levels` levels left. -/
def reader (levels : Nat) : Reader BlockRef := do
  Reader.skipLayout
  match ← Reader.peek with
  | some 0x5b => readElements levels
  | _ =>
      let draft ← Reader.object levels expected readMember {}
      liftM (ofDraft draft)

end BlockRef

/-- Read a document that holds a block. -/
def Block.read (input : Bytes) : Except Problem Block :=
  document (Block.reader nestingLimit) input

/-- Read a document that holds a header. -/
def BlockHeader.read (input : Bytes) : Except Problem BlockHeader :=
  document (BlockHeader.reader nestingLimit) input

/-- Read a document that holds a reference. -/
def BlockRef.read (input : Bytes) : Except Problem BlockRef :=
  document (BlockRef.reader nestingLimit) input

end BlockFeed
