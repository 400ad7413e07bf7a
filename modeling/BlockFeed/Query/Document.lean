import BlockFeed.Json.Skip
import BlockFeed.Query

/-!
# Reading queries

A query is an object that holds the ends of its range, the tag of its dataset
and the members of the selection, in any order. The tag decides what the other
members mean, so the members are collected first and understood afterwards. A
selection by itself may also be given as an array whose first element is the
tag. Unknown members are ignored.
-/

namespace BlockFeed

open Json

namespace Selection

/-- The members of a selection that have been read so far. -/
structure Draft where
  fields : Option Value := none
  includeAllBlocks : Option Bool := none
  filters : List (String × List Value) := []

namespace Draft

/-- The list of a filter, if it has been read. -/
def filter? (draft : Draft) (name : String) : Option (List Value) :=
  draft.filters.lookup name

/-- Whether a member with this key has been read. -/
def holds (draft : Draft) (key : String) : Bool :=
  if key == "fields" then draft.fields.isSome
  else if key == "includeAllBlocks" then draft.includeAllBlocks.isSome
  else (draft.filter? key).isSome

/-- The same draft with the list of a filter. -/
def withFilter (draft : Draft) (name : String) (list : List Value) : Draft :=
  { draft with filters := (name, list) :: draft.filters }

/-- The selection that a draft describes. What has not been read is empty. -/
def finish (draft : Draft) (dataset : Dataset) : Selection where
  dataset := dataset
  fields := draft.fields.getD .null
  includeAllBlocks := draft.includeAllBlocks.getD false
  filters := dataset.filters.map fun name => (draft.filter? name).getD []
  width := by simp

end Draft

/-! ## Understanding collected members -/

/-- Understand a collected value as a truth value. -/
def boolOf : Value -> Except Problem Bool
  | .bool value => .ok value
  | value => .error (.invalidType value.found "a boolean")

/-- Understand a collected value as a list. -/
def listOf : Value -> Except Problem (List Value)
  | .array elements => .ok elements
  | value => .error (.invalidType value.found "a sequence")

/-- Understand one collected member. -/
def understand (dataset : Dataset) (draft : Draft) (member : String × Value) :
    Except Problem Draft := do
  let (key, value) := member
  if draft.holds key then throw (.duplicateField key)
  else if key == "fields" then return { draft with fields := some value }
  else if key == "includeAllBlocks" then
    return { draft with includeAllBlocks := some (← boolOf value) }
  else if dataset.filters.contains key then
    return draft.withFilter key (← listOf value)
  else return draft

/-- The selection that collected members describe. -/
def ofMembers (dataset : Dataset) (members : Members) : Except Problem Selection := do
  let draft ← members.foldlM (understand dataset) {}
  return draft.finish dataset

/-- The keys of a selection in the order of its fields. -/
def keys (dataset : Dataset) : List String :=
  "fields" :: "includeAllBlocks" :: dataset.filters

/-- The selection that collected elements describe, which stand for its fields
in order. Missing ones are empty. -/
def ofElements (dataset : Dataset) (elements : List Value) : Except Problem Selection := do
  let draft ← ((keys dataset).zip elements).foldlM (understand dataset) {}
  if (keys dataset).length < elements.length then
    throw (.invalidLength elements.length
      (toString (keys dataset).length ++ " elements in sequence"))
  return draft.finish dataset

/-- What a message calls a selection by itself. -/
def expected : String := "internally tagged enum DatasetQuery"

/-- The problem of a tag that no dataset has. -/
def unknownTag (tag : String) : Problem :=
  .unknownVariant tag (Dataset.all.map Dataset.name)

/-- The dataset with a tag. -/
def datasetOf (tag : String) : Except Problem Dataset :=
  match Dataset.ofName? tag with
  | some dataset => .ok dataset
  | none => .error (unknownTag tag)

/-- Understand a collected value as a tag. A number counts the datasets. -/
def tagOf : Value -> Except Problem Dataset
  | .string tag => datasetOf tag
  | .number (.natural index) =>
      match Dataset.all[index.toNat]? with
      | some dataset => .ok dataset
      | none =>
          .error (.invalidValue (.number (.natural index)) "variant index 0 <= i < 3")
  | value => .error (.invalidType value.found "variant identifier")

/-- A tag and the members beside it, the latest first. -/
structure Tagged where
  tag : Option Dataset := none
  others : Members := []

/-- Find the tag among collected members. -/
def Tagged.collect (tagged : Tagged) (member : String × Value) : Except Problem Tagged := do
  if member.1 == "type" then
    if tagged.tag.isSome then throw (.duplicateField "type")
    return { tagged with tag := some (← tagOf member.2) }
  else return { tagged with others := member :: tagged.others }

/-- The selection that a tag and its members describe. -/
def Tagged.finish (tagged : Tagged) : Except Problem Selection :=
  match tagged.tag with
  | some dataset => ofMembers dataset tagged.others.reverse
  | none => .error (.missingField "type")

/-- The selection that collected members with a tag among them describe. -/
def ofTaggedMembers (members : Members) : Except Problem Selection := do
  let tagged ← members.foldlM Tagged.collect {}
  tagged.finish

/-! ## Reading a selection with its tag -/

/-- Read a tag. -/
def readTag : Reader Dataset := do
  let tag ← Reader.string "variant identifier"
  liftM (datasetOf tag)

/-- Read one member of a tagged selection behind its key. -/
def readTaggedMember (levels : Nat) (tagged : Tagged) (key : String) : Reader Tagged := do
  if key == "type" then
    if tagged.tag.isSome then Reader.fail (.duplicateField "type")
    Reader.colon
    return { tagged with tag := some (← readTag) }
  else
    Reader.colon
    return { tagged with others := (key, ← Reader.value levels) :: tagged.others }

/-- Read a tagged selection from an array. -/
def readTaggedElements (levels : Nat) : Reader Selection := do
  Reader.enter levels
  match ← Reader.element? true readTag with
  | none => Reader.fail (.missingField "type")
  | some dataset =>
      let elements ← Reader.elements (Reader.value (levels - 1)) (← Reader.bound) false
      liftM (ofElements dataset elements)

/-- Read a selection with its tag, with `levels` levels left. -/
def reader (levels : Nat) : Reader Selection := do
  Reader.skipLayout
  match ← Reader.peek with
  | some 0x5b => readTaggedElements levels
  | _ =>
      let tagged ← Reader.object levels expected (readTaggedMember (levels - 1)) {}
      liftM tagged.finish

/-! ## Reading a selection of a known dataset -/

/-- What a message calls a selection of a known dataset. -/
def expectedOf : Dataset -> String
  | .evm => "struct EvmRequest"
  | .solana => "struct SolanaRequest"
  | .substrate => "struct SubstrateRequest"

/-- Read the value of a known field. -/
def readField (levels : Nat) (draft : Draft) (key : String) : Reader Draft := do
  if key == "fields" then
    return { draft with fields := some (← Reader.value levels) }
  else if key == "includeAllBlocks" then
    return { draft with includeAllBlocks := some (← Reader.bool) }
  else
    return draft.withFilter key (← Reader.array levels)

/-- Read one member of a selection behind its key. Unknown members are passed
over. -/
def readMember (dataset : Dataset) (levels : Nat) (draft : Draft) (key : String) :
    Reader Draft := do
  if (keys dataset).contains key then
    if draft.holds key then Reader.fail (.duplicateField key)
    Reader.colon
    readField levels draft key
  else
    Reader.colon
    Reader.skip
    return draft

/-- Read the fields that are left from the elements of an array. -/
def readElements (levels : Nat) : List String -> Bool -> Draft -> Reader Draft
  | [], _, draft => return draft
  | key :: rest, first, draft => do
      match ← Reader.element? first (readField levels draft key) with
      | some next => readElements levels rest false next
      | none => return draft

/-- Read a selection of a known dataset with `levels` levels left. -/
def readerOf (dataset : Dataset) (levels : Nat) : Reader Selection := do
  Reader.skipLayout
  match ← Reader.peek with
  | some 0x5b =>
      Reader.enter levels
      let draft ← readElements (levels - 1) (keys dataset) true {}
      Reader.closeList
      return draft.finish dataset
  | _ =>
      let draft ←
        Reader.object levels (expectedOf dataset) (readMember dataset (levels - 1)) {}
      return draft.finish dataset

end Selection

namespace Query

/-- The members of a query that have been read so far. -/
structure Draft where
  fromBlock : Option (Option UInt64) := none
  toBlock : Option (Option UInt64) := none
  /-- The other members, the latest first. -/
  others : Members := []

/-- Read one member of a query behind its key. -/
def readMember (levels : Nat) (draft : Draft) (key : String) : Reader Draft := do
  if key == "fromBlock" then
    if draft.fromBlock.isSome then Reader.fail (.duplicateField "fromBlock")
    Reader.colon
    return { draft with fromBlock := some (← Reader.natural?) }
  else if key == "toBlock" then
    if draft.toBlock.isSome then Reader.fail (.duplicateField "toBlock")
    Reader.colon
    return { draft with toBlock := some (← Reader.natural?) }
  else
    Reader.colon
    return { draft with others := (key, ← Reader.value levels) :: draft.others }

/-- The query whose members have been read. -/
def ofDraft (draft : Draft) : Except Problem Query := do
  let selection ← Selection.ofTaggedMembers draft.others.reverse
  return ⟨draft.fromBlock.join, draft.toBlock.join, selection⟩

/-- Read a query with `levels` levels left. -/
def reader (levels : Nat) : Reader Query := do
  let draft ← Reader.object levels "struct PortalQuery" (readMember (levels - 1)) {}
  liftM (ofDraft draft)

/-- Read a document that holds a query. -/
def read (input : Bytes) : Except Problem Query :=
  document (reader nestingLimit) input

end Query

/-- Read a document that holds a selection with its tag. -/
def Selection.read (input : Bytes) : Except Problem Selection :=
  document (Selection.reader nestingLimit) input

/-- Read a document that holds a selection of a known dataset. -/
def Selection.readOf (dataset : Dataset) (input : Bytes) : Except Problem Selection :=
  document (Selection.readerOf dataset nestingLimit) input

end BlockFeed
