import BlockFeed.Query

/-!
# Arguments of the command

The command has three subcommands, each with options that take a value and
switches that take none. Arguments are read in order. A value is only looked at
when the next option begins or the arguments end, so that an unknown argument
behind a bad value is reported first.
-/

namespace BlockFeed
namespace Command

/-- The subcommands. -/
inductive Verb
  | height
  | query
  | stream
  deriving DecidableEq, Repr

namespace Verb

/-- All subcommands. -/
def all : List Verb := [.height, .query, .stream]

/-- The name of a subcommand. -/
def name : Verb -> String
  | .height => "height"
  | .query => "query"
  | .stream => "stream"

/-- The subcommand with a name. -/
def ofName? (text : String) : Option Verb := all.find? (·.name == text)

end Verb

/-- What kind of values an option takes. -/
inductive Kind
  | text
  /-- The path of a file, which is not empty. -/
  | path
  /-- A number of 64 bits. -/
  | number
  deriving DecidableEq, Repr

/-- Something that may stand among the arguments behind two hyphens. -/
structure Flag where
  name : String
  /-- The kind of its value; a switch has none. -/
  kind : Option Kind
  deriving DecidableEq, Repr

namespace Flag

/-- An option with a value. -/
def option (name : String) (kind : Kind) : Flag := ⟨name, some kind⟩

/-- A switch. -/
def switch (name : String) : Flag := ⟨name, none⟩

/-- The name of an option's value in messages. -/
def valueName (flag : Flag) : String :=
  String.ofList (flag.name.toList.map fun character =>
    if character == '-' then '_' else character.toUpper)

/-- How a flag is named in messages. -/
def describe (flag : Flag) : String :=
  match flag.kind with
  | some _ => "--" ++ flag.name ++ " <" ++ flag.valueName ++ ">"
  | none => "--" ++ flag.name

end Flag

/-- The switch for more log output, which may stand anywhere. -/
def verbose : Flag := .switch "verbose"

/-- The address of the dataset. -/
def url : Flag := .option "url" .text

/-- The flags that tell what is asked for. -/
def rangeFlags : List Flag :=
  [.option "query" .path, .option "from" .number, .option "to" .number]

/-- The flags that tell how it is delivered. -/
def deliveryFlags : List Flag :=
  [.option "min-bytes" .number, .option "max-bytes" .number,
    .option "max-idle-ms" .number, .option "max-wait-ms" .number,
    .option "head-poll-ms" .number, .switch "stop-on-head", .switch "blocks"]

/-- The flags of a subcommand. -/
def Verb.flags : Verb -> List Flag
  | .height => [url, verbose]
  | .query => url :: rangeFlags ++ [verbose]
  | .stream => url :: rangeFlags ++ deliveryFlags ++ [verbose]

/-- The options that a subcommand cannot do without. -/
def Verb.required : Verb -> List String
  | .height => ["url"]
  | .query => ["url", "query"]
  | .stream => ["url", "query"]

/-- Why arguments cannot be used. -/
inductive Misuse
  | unexpectedArgument (argument : String)
  | unexpectedValue (value : String) (flag : Flag)
  | missingValue (flag : Flag)
  | invalidValue (value : String) (flag : Flag) (reason : String)
  | repeated (flag : Flag)
  | missingArguments
  | missingSubcommand
  | unknownSubcommand (name : String)
  /-- There are no arguments at all, and a summary is shown. -/
  | nothing
  deriving DecidableEq, Repr

/-- The first line of the report about arguments that cannot be used. -/
def Misuse.message : Misuse -> String
  | .unexpectedArgument argument => "error: unexpected argument '" ++ argument ++ "' found"
  | .unexpectedValue value flag =>
      "error: unexpected value '" ++ value ++ "' for '" ++ flag.describe ++
        "' found; no more were expected"
  | .missingValue flag =>
      "error: a value is required for '" ++ flag.describe ++ "' but none was supplied"
  | .invalidValue value flag reason =>
      "error: invalid value '" ++ value ++ "' for '" ++ flag.describe ++ "': " ++ reason
  | .repeated flag =>
      "error: the argument '" ++ flag.describe ++ "' cannot be used multiple times"
  | .missingArguments => "error: the following required arguments were not provided:"
  | .missingSubcommand =>
      "error: 'chainportal' requires a subcommand but one was not provided"
  | .unknownSubcommand name => "error: unrecognized subcommand '" ++ name ++ "'"
  | .nothing => "Query and stream finalized blocks from a blockchain data portal"

/-! ## Values -/

/-- The number of 64 bits that decimal digits stand for, or why they do not. The
first character that is no digit or makes the number too large decides. -/
def digitsValue (characters : List Char) : Except String Nat :=
  characters.foldlM (fun value character =>
    if '0' ≤ character && character ≤ '9' then
      let longer := value * 10 + (character.toNat - '0'.toNat)
      if longer < UInt64.size then .ok longer
      else .error "number too large to fit in target type"
    else .error "invalid digit found in string") 0

/-- The number of 64 bits that a text stands for, or why it does not. -/
def numberValue (text : String) : Except String UInt64 := do
  let digits :=
    match text.toList with
    | '+' :: [] => ['+']
    | '+' :: rest => rest
    | others => others
  if digits.isEmpty then throw "cannot parse integer from empty string"
  return (← digitsValue digits).toUInt64

/-- Check the value of an option. -/
def checkValue (flag : Flag) (value : String) : Except Misuse Unit :=
  match flag.kind with
  | some .number =>
      match numberValue value with
      | .ok _ => .ok ()
      | .error reason => .error (.invalidValue value flag reason)
  | some .path => if value.isEmpty then .error (.missingValue flag) else .ok ()
  | _ => .ok ()

/-! ## Reading arguments -/

/-- An option whose value has not been looked at. -/
structure Waiting where
  flag : Flag
  value : Option String
  deriving DecidableEq, Repr

/-- The arguments of a subcommand that have been read. -/
structure Given where
  /-- The values of options and the switches, by name. -/
  known : List (String × String)
  waiting : Option Waiting
  deriving DecidableEq, Repr

namespace Given

/-- Nothing has been read. -/
def empty : Given := ⟨[], none⟩

/-- The value of an option. -/
def value? (given : Given) (name : String) : Option String :=
  given.known.lookup name

/-- Whether a switch or option is there. -/
def holds (given : Given) (name : String) : Bool := (given.value? name).isSome

/-- Add a flag, which may be there only once. -/
def add (given : Given) (flag : Flag) (value : String) : Except Misuse Given :=
  if given.holds flag.name then .error (.repeated flag)
  else .ok { given with known := (flag.name, value) :: given.known }

/-- Add an option and look at its value. -/
def take (given : Given) (flag : Flag) (value : String) : Except Misuse Given := do
  let added ← given.add flag value
  checkValue flag value
  return added

/-- Look at the value of the option that waits. -/
def settle (given : Given) : Except Misuse Given := do
  match given.waiting with
  | none => return given
  | some ⟨flag, none⟩ => throw (.missingValue flag)
  | some ⟨flag, some value⟩ => Given.take { given with waiting := none } flag value

end Given

/-- Split an argument behind two hyphens at its equals sign. -/
def splitValue (characters : List Char) : String × Option String :=
  match characters.dropWhile (· != '=') with
  | _ :: value => (String.ofList (characters.takeWhile (· != '=')), some (String.ofList value))
  | [] => (String.ofList characters, none)

/-- Read an argument that begins with two hyphens. -/
def readLong (flags : List Flag) (given : Given) (characters : List Char) :
    Except Misuse Given := do
  let (name, value) := splitValue characters
  match flags.find? (·.name == name) with
  | none => throw (.unexpectedArgument ("--" ++ name))
  | some flag =>
      match flag.kind, value with
      | none, some text => throw (.unexpectedValue text flag)
      | none, none => (← given.settle).add flag ""
      | some _, some text => (← given.settle).take flag text
      | some _, none => return { (← given.settle) with waiting := some ⟨flag, none⟩ }

/-- Read an argument that begins with one hyphen: letters of switches. -/
def readShort (given : Given) : List Char -> Except Misuse Given
  | [] => .ok given
  | 'v' :: rest => do
      let settled ← given.settle
      readShort (← settled.add verbose "") rest
  | letter :: _ => .error (.unexpectedArgument (String.ofList ['-', letter]))

/-- Whether the option that waits still needs its value. -/
def Given.needsValue (given : Given) : Option Flag :=
  match given.waiting with
  | some ⟨flag, none⟩ => some flag
  | _ => none

/-- Read the arguments of a subcommand. Behind two bare hyphens nothing is an
option. -/
def readArguments (flags : List Flag) (plain : Bool) (given : Given) :
    List String -> Except Misuse Given
  | [] => given.settle
  | argument :: rest => do
      match plain, argument.toList with
      | false, ['-', '-'] => readArguments flags true given rest
      | false, '-' :: '-' :: long => readArguments flags false (← readLong flags given long) rest
      | false, '-' :: letter :: letters =>
          readArguments flags false (← readShort given (letter :: letters)) rest
      | _, _ =>
          match plain, given.needsValue with
          | false, some flag =>
              readArguments flags false { given with waiting := some ⟨flag, some argument⟩ } rest
          | _, _ => throw (.unexpectedArgument argument)

/-! ## The whole command line -/

/-- What a command line asks for. -/
inductive Request
  | version
  | run (verb : Verb) (given : Given)
  deriving DecidableEq, Repr

/-- Complete the arguments of a subcommand from the environment, which may name
the dataset. -/
def complete (verb : Verb) (portalUrl : Option String) (given : Given) :
    Except Misuse Request :=
  let completed :=
    match given.holds "url", portalUrl with
    | false, some address => { given with known := ("url", address) :: given.known }
    | _, _ => given
  if verb.required.all completed.holds then .ok (.run verb completed)
  else .error .missingArguments

/-- Read letters of switches before the subcommand: nothing if all that is asked
for is the version. -/
def readLetters (verbosely : Bool) : List Char -> Except Misuse (Option Bool)
  | [] => .ok (some verbosely)
  | 'V' :: _ => .ok none
  | 'v' :: rest =>
      if verbosely then .error (.repeated verbose) else readLetters true rest
  | letter :: _ => .error (.unexpectedArgument (String.ofList ['-', letter]))

/-- Read a long switch before the subcommand: nothing if all that is asked for is
the version. -/
def readSwitch (verbosely : Bool) (characters : List Char) :
    Except Misuse (Option Bool) :=
  let (name, value) := splitValue characters
  match [verbose, .switch "version"].find? (·.name == name), value with
  | none, _ => .error (.unexpectedArgument ("--" ++ name))
  | some flag, some text => .error (.unexpectedValue text flag)
  | some flag, none =>
      if flag.name == "version" then .ok none
      else if verbosely then .error (.repeated verbose)
      else .ok (some true)

/-- Read what stands behind two bare hyphens before the subcommand, where there
is no subcommand any more. -/
def readPlain (verbosely : Bool) : List String -> Misuse
  | [] => if verbosely then .missingSubcommand else .nothing
  | argument :: _ =>
      if (Verb.ofName? argument).isSome then .unexpectedArgument argument
      else .unknownSubcommand argument

/-- Read the arguments up to the subcommand and then its own. `verbosely` tells
whether more log output has been asked for. -/
def readCommand (portalUrl : Option String) (verbosely : Bool) :
    List String -> Except Misuse Request
  | [] => .error (if verbosely then .missingSubcommand else .nothing)
  | argument :: rest =>
      match Verb.ofName? argument, argument.toList with
      | some verb, _ =>
          (readArguments verb.flags false .empty rest).bind (complete verb portalUrl)
      | none, ['-', '-'] => .error (readPlain verbosely rest)
      | none, '-' :: '-' :: long =>
          match readSwitch verbosely long with
          | .error misuse => .error misuse
          | .ok none => .ok .version
          | .ok (some more) => readCommand portalUrl more rest
      | none, '-' :: letter :: letters =>
          match readLetters verbosely (letter :: letters) with
          | .error misuse => .error misuse
          | .ok none => .ok .version
          | .ok (some more) => readCommand portalUrl more rest
      | none, _ => .error (.unknownSubcommand argument)

/-- Understand a command line. -/
def Request.ofArguments (portalUrl : Option String) (arguments : List String) :
    Except Misuse Request :=
  readCommand portalUrl false arguments

example :
    (Request.ofArguments none ["height", "--url", "x"]).toOption =
      some (.run .height ⟨[("url", "x")], none⟩) := by decide +kernel

end Command
end BlockFeed
