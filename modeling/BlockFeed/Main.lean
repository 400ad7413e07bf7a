import BlockFeed.Command
import BlockFeed.Http.Transport

/-!
# The program

The program runs the command with its arguments, the environment and the files
of the system. It has no network of its own, so that the portal it asks is one
that cannot be reached.
-/

namespace BlockFeed

/-- The content of a file, or why it cannot be read. -/
def readFile (path : String) : IO (Except String Bytes) := do
  try
    return .ok (← IO.FS.readBinFile path).toList
  catch failure => return .error (toString failure)

/-- The world in which the program runs with its arguments. -/
def world (arguments : List String) : IO Command.World := do
  let portalUrl ← IO.getEnv "PORTAL_URL"
  let content ←
    match Command.queryPath? portalUrl arguments with
    | some path => readFile path
    | none => pure (.error "no file was named")
  return {
    portalUrl := portalUrl
    contentOf := fun _ => content
    portal := Http.unreachablePortal {} {} }

end BlockFeed

/-- Run the command. -/
def main (arguments : List String) : IO UInt32 := do
  let result := BlockFeed.Command.run (← BlockFeed.world arguments) arguments
  for line in result.output do
    IO.println line
  for line in result.errors do
    IO.eprintln line
  return result.code
