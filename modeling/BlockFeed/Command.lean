import BlockFeed.Block.Document
import BlockFeed.Command.Arguments
import BlockFeed.Fleet.Schedule
import BlockFeed.Query.Document

/-!
# The command

The command tells the finalized height of a dataset, runs a query as a whole, or
follows a feed. What it needs of the world is given to it: the address in the
environment, the files it may read, and the portal.
-/

namespace BlockFeed
namespace Command

/-- What the command needs of the world. -/
structure World where
  /-- The address of the dataset in the environment. -/
  portalUrl : Option String
  /-- The content of a file, or why it cannot be read. -/
  contentOf : String -> Except String Bytes
  portal : Portal

/-- What the command leaves behind. -/
structure Result where
  code : UInt32
  output : List String
  errors : List String
  deriving DecidableEq, Repr

/-- A failure with what was being done, if that is told apart, and the causes
behind it. -/
structure Failure where
  summary : String
  causes : List String
  deriving DecidableEq, Repr

namespace Failure

/-- The failure that a fault is by itself. -/
def ofFault (fault : Fault) : Failure :=
  match fault with
  | .malformedBlock _ problem => ⟨fault.message, [problem.message]⟩
  | _ => ⟨fault.message, []⟩

/-- The same failure as the cause of another one. -/
def under (summary : String) (failure : Failure) : Failure :=
  ⟨summary, failure.summary :: failure.causes⟩

/-- Numbers stand right-aligned in a column of this width. -/
def columnWidth : Nat := 5

/-- One of several causes, with its number. -/
def numbered (index : Nat) (cause : String) : String :=
  let digits := toString index
  String.ofList (List.replicate (columnWidth - digits.length) ' ') ++ digits ++ ": " ++ cause

/-- The lines about the causes of a failure. -/
def causeLines : List String -> List String
  | [] => []
  | [cause] => ["", "Caused by:", "    " ++ cause]
  | causes =>
      ["", "Caused by:"] ++ causes.zipIdx.map fun (cause, index) => numbered index cause

/-- The report about a failure. -/
def report (failure : Failure) : List String :=
  ("Error: " ++ failure.summary) :: causeLines failure.causes

end Failure

/-- The name and version of the command. -/
def versionLine : String := "chainportal 0.2.0"

/-- What a number option says. -/
def number? (given : Given) (name : String) : Option Nat :=
  (given.value? name).bind fun text => (numberValue text).toOption.map UInt64.toNat

/-- A timer in milliseconds, which zero turns off. -/
def timer (millis : Nat) : Option Duration :=
  if millis == 0 then none else some (Duration.ofMillis millis)

/-- The options of the feed that is followed. -/
def streamOptions (given : Given) : StreamOptions :=
  let base : StreamOptions := {}
  { base with
    minBytes := (number? given "min-bytes").getD base.minBytes
    maxBytes := number? given "max-bytes"
    maxIdle := ((number? given "max-idle-ms").map timer).getD base.maxIdle
    maxWait := ((number? given "max-wait-ms").map timer).getD base.maxWait
    headPoll := ((number? given "head-poll-ms").map Duration.ofMillis).getD base.headPoll
    stopAtHead := given.holds "stop-on-head" }

/-- The query in a file, for the range that the arguments give. -/
def loadQuery (world : World) (given : Given) : Except Failure Query :=
  let path := (given.value? "query").getD ""
  match world.contentOf path with
  | .error reason => .error ⟨"failed to read " ++ path, [reason]⟩
  | .ok content =>
      if (Utf8.damage? content).isSome then
        .error ⟨"failed to read " ++ path, ["stream did not contain valid UTF-8"]⟩
      else
        match Query.read content with
        | .error problem => .error ⟨"invalid query in " ++ path, [problem.message]⟩
        | .ok query =>
            .ok
              { query with
                fromBlock := ((number? given "from").map Nat.toUInt64).or query.fromBlock
                toBlock := ((number? given "to").map Nat.toUInt64).or query.toBlock }

/-- The client of the dataset that the arguments name. -/
def clientOf (given : Given) : Except Failure Client :=
  (Client.connect ((given.value? "url").getD "") {}).mapError Failure.ofFault

/-- The line that a block is written as. -/
def blockLine (block : Block) : String := block.toValue.render

/-- What a call that never returns leaves behind. -/
def lost : Failure := ⟨"the portal never answered", []⟩

/-- What comes of a call. -/
def settled (summary : String) : Client.Outcome α -> Except Failure α
  | some (.ok value) => .ok value
  | some (.error fault) => .error ((Failure.ofFault fault).under summary)
  | none => .error lost

/-- Tell the finalized height. -/
def height (world : World) (given : Given) : Except Failure (List String) := do
  let _ ← clientOf given
  let address := (given.value? "url").getD ""
  let height ← settled ("failed to fetch finalized height from " ++ address)
    (Client.height world.portal .start).1
  return [toString height.toNat]

/-- Run a query as a whole. -/
def query (world : World) (given : Given) : Except Failure (List String) := do
  let client ← clientOf given
  let query ← loadQuery world given
  let blocks ← settled "query failed" (client.query world.portal query .start).1
  return blocks.map blockLine

/-! ## Following a feed -/

/-- A batch as a line of progress, behind `total` blocks with its own. -/
def progressLine (batch : Batch) (total : Nat) (elapsed : Duration) : String :=
  let tenths := (elapsed.millis + 50) / 100
  "blocks " ++ toString (batch.first?.getD 0).toNat ++ ".." ++
    toString (batch.last?.getD 0).toNat ++ " (" ++ toString batch.blocks.length ++ ") tip " ++
    ((batch.finalizedHead.map fun head => toString head.number.toNat).getD "?") ++
    " total " ++ toString total ++ " in " ++ toString (tenths / 10) ++ "." ++
    toString (tenths % 10) ++ "s"

/-- The lines that a batch is written as. -/
def batchLines (asBlocks : Bool) (batch : Batch) (total : Nat) (elapsed : Duration) :
    List String :=
  if asBlocks then batch.blocks.map blockLine else [progressLine batch total elapsed]

/-- How many steps the loop of a feed may take at one instant. -/
def stepBound : Nat := 1000000

/-- How long the command waits for one batch. -/
def longestWait : Duration := Duration.ofSeconds 1000000

/-- The lines that were written until something ended them. -/
structure Followed where
  lines : List String
  failure : Option Failure
  deriving DecidableEq, Repr

/-- Follow a feed for at most `batches` batches, behind `total` blocks. -/
def followWithin (asBlocks : Bool) : Nat -> Nat -> Fleet -> Followed
  | 0, _, _ => ⟨[], none⟩
  | batches + 1, total, fleet =>
      match fleet.pull stepBound 0 longestWait with
      | (some (.batch batch), next) =>
          let sum := total + batch.blocks.length
          let followed := followWithin asBlocks batches sum next
          { followed with lines := batchLines asBlocks batch sum next.now ++ followed.lines }
      | (some (.failed fault), _) =>
          ⟨[], some ((Failure.ofFault fault).under "stream failed")⟩
      | (some _, _) => ⟨[], none⟩
      | (none, _) => ⟨[], some lost⟩

/-- How many batches the command follows a feed for. -/
def batchBound : Nat := 1000000

/-- Follow a feed. -/
def stream (world : World) (given : Given) : Except Failure Followed := do
  let client ← clientOf given
  let query ← loadQuery world given
  let fleet := (Fleet.create .empty).opened client world.portal query (streamOptions given)
  return followWithin (given.holds "blocks") batchBound 0 fleet

/-! ## Running the command -/

/-- The result of a command that wrote lines and then failed or not. -/
def resultOf (output : List String) (failure : Option Failure) : Result :=
  match failure with
  | some failure => ⟨1, output, failure.report⟩
  | none => ⟨0, output, []⟩

/-- Run a subcommand. -/
def runVerb (world : World) (verb : Verb) (given : Given) : Result :=
  let lines : Except Failure Followed :=
    match verb with
    | .height => (height world given).map (⟨·, none⟩)
    | .query => (query world given).map (⟨·, none⟩)
    | .stream => stream world given
  match lines with
  | .ok followed => resultOf followed.lines followed.failure
  | .error failure => resultOf [] (some failure)

/-- The file that the command reads, if it reads one. -/
def queryPath? (portalUrl : Option String) (arguments : List String) : Option String :=
  match Request.ofArguments portalUrl arguments with
  | .ok (.run _ given) => given.value? "query"
  | _ => none

/-- Run the command with its arguments. -/
def run (world : World) (arguments : List String) : Result :=
  match Request.ofArguments world.portalUrl arguments with
  | .error misuse => ⟨2, [], [misuse.message]⟩
  | .ok .version => ⟨0, [versionLine], []⟩
  | .ok (.run verb given) => runVerb world verb given

end Command
end BlockFeed
