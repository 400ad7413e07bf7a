import BlockFeed.Block
import BlockFeed.Fault

/-!
# Queries

A query asks for a range of blocks of one kind of dataset and selects what the
blocks are to hold. The filters of each kind are lists of their own; two
selections of one kind are merged by joining their lists.
-/

namespace BlockFeed

/-- The kinds of datasets. -/
inductive Dataset
  | evm
  | solana
  | substrate
  deriving DecidableEq, Repr

namespace Dataset

/-- All kinds in the order in which messages list them. -/
def all : List Dataset := [.evm, .solana, .substrate]

/-- The tag of a kind. -/
def name : Dataset -> String
  | .evm => "evm"
  | .solana => "solana"
  | .substrate => "substrate"

/-- The kind with a tag. -/
def ofName? (tag : String) : Option Dataset :=
  all.find? (·.name == tag)

/-- The filter lists of a kind in the order in which they are written. -/
def filters : Dataset -> List String
  | .evm => ["logs", "transactions", "traces", "stateDiffs"]
  | .solana =>
      ["transactions", "instructions", "logs", "balances", "tokenBalances", "rewards"]
  | .substrate =>
      ["events", "calls", "evmLogs", "ethereumTransactions", "contractsEvents",
        "gearMessagesQueued", "gearUserMessagesSent"]

@[simp] theorem ofName?_name (dataset : Dataset) :
    ofName? dataset.name = some dataset := by
  cases dataset <;> decide

end Dataset

/-- What the blocks of a dataset are to hold. -/
structure Selection where
  dataset : Dataset
  /-- The fields to be sent, or null for the portal's own choice. -/
  fields : Json.Value
  /-- Whether blocks without a match are sent too. -/
  includeAllBlocks : Bool
  /-- One list for each filter of the dataset. -/
  filters : List (List Json.Value)
  /-- No filter list is missing, and none is too many. -/
  width : filters.length = dataset.filters.length

namespace Selection

/-- The selection that asks for nothing in particular. -/
def empty (dataset : Dataset) : Selection where
  dataset := dataset
  fields := .null
  includeAllBlocks := false
  filters := dataset.filters.map fun _ => []
  width := by simp

/-- Two selections are the same when all their parts are. -/
instance : BEq Selection where
  beq left right :=
    left.dataset == right.dataset && left.fields == right.fields &&
      left.includeAllBlocks == right.includeAllBlocks && left.filters == right.filters

/-- Join the filters of another selection of the same dataset to this one, which
keeps its choice of fields. -/
def merge (selection other : Selection) : Except Fault Selection :=
  if same : other.dataset = selection.dataset then
    .ok
      { selection with
        includeAllBlocks := selection.includeAllBlocks || other.includeAllBlocks
        filters := List.zipWith (· ++ ·) selection.filters other.filters
        width := by simp [selection.width, other.width, same] }
  else
    .error (.other ("cannot merge " ++ other.dataset.name ++ " request into " ++
      selection.dataset.name ++ " request"))

/-- Join another selection to the one at hand, which stays as it is if they are of
different datasets. -/
def absorb (other : Selection) : EStateM Fault Selection Unit := do
  match (← get).merge other with
  | .ok merged => set merged
  | .error fault => throw fault

/-- The members by which a selection is written, without those that say
nothing. -/
def members (selection : Selection) : Json.Members :=
  (match selection.fields with
    | .null => []
    | fields => [("fields", fields)]) ++
  (if selection.includeAllBlocks then [("includeAllBlocks", .bool true)] else []) ++
  ((selection.dataset.filters.zip selection.filters).filter (!·.2.isEmpty)).map
    fun filter => (filter.1, .array filter.2)

/-- The members of a selection behind the tag of its dataset. -/
def taggedMembers (selection : Selection) : Json.Members :=
  ("type", .string selection.dataset.name) :: selection.members

end Selection

/-- A range of blocks and what they are to hold. -/
structure Query where
  /-- The first block; without it the range begins at block 0. -/
  fromBlock : Option UInt64
  /-- The last block; without it the range has no end. -/
  toBlock : Option UInt64
  selection : Selection
  deriving BEq

namespace Query

/-- The whole chain of a selection. -/
def ofSelection (selection : Selection) : Query := ⟨none, none, selection⟩

/-- The same query from another first block. -/
def startingAt (query : Query) (number : UInt64) : Query :=
  { query with fromBlock := some number }

/-- The same query up to another last block. -/
def endingAt (query : Query) (number : UInt64) : Query :=
  { query with toBlock := some number }

/-- The first block that is asked for. -/
def firstBlock (query : Query) : UInt64 := query.fromBlock.getD 0

/-- Whether a block number does not lie behind the end of the range. -/
def reaches (query : Query) (number : UInt64) : Bool :=
  match query.toBlock with
  | some last => number ≤ last
  | none => true

/-- The member for one end of the range. -/
def boundMember (key : String) (bound : Option UInt64) : Json.Members :=
  bound.toList.map fun number => (key, .number (.natural number))

/-- The members by which a query is written, in the order of its fields. -/
def members (query : Query) : Json.Members :=
  boundMember "fromBlock" query.fromBlock ++ boundMember "toBlock" query.toBlock ++
    query.selection.taggedMembers

/-- The JSON form of a query with its members in the order of its fields. -/
def toValue (query : Query) : Json.Value := .object query.members

/-- The JSON form in which a query is posted: its members are sorted. -/
def wire (query : Query) : Json.Value := .object (Json.Members.sorted query.members)

@[simp] theorem firstBlock_startingAt (query : Query) (number : UInt64) :
    (query.startingAt number).firstBlock = number := rfl

@[simp] theorem selection_startingAt (query : Query) (number : UInt64) :
    (query.startingAt number).selection = query.selection := rfl

@[simp] theorem toBlock_startingAt (query : Query) (number : UInt64) :
    (query.startingAt number).toBlock = query.toBlock := rfl

end Query
end BlockFeed
