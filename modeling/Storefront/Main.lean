import Storefront.Server.Arguments
import Storefront.Server.Launch

/-!
# The command line

Reads the arguments and the configuration file, and brings the server to the point where it listens.
-/

namespace Storefront

/-- The text of a file, if it can be read. -/
def fileText? (path : String) : IO (Option String) := do
  try return some (← IO.FS.readFile path) catch _ => return none

/-- Launches the server of a file. -/
def runServer (path : String) : IO UInt32 := do
  match Server.launch (← fileText? path) with
  | .error e =>
    IO.eprintln e.message
    return 1
  | .ok server =>
    if server.announces then IO.println Server.announcement
    return 0

/-- Why arguments are not taken, with the sentence about it. -/
def reportStop (stop : Arguments.Stop) : IO UInt32 := do
  match stop with
  | .help =>
    IO.print Arguments.helpText
    return 0
  | .version =>
    IO.print Arguments.versionText
    return 0
  | stop =>
    IO.eprintln ("error: " ++ stop.message)
    return 2

end Storefront

open Storefront in
/-- The program. -/
def main (args : List String) : IO UInt32 :=
  match Arguments.parse args with
  | .ok a => runServer a.config
  | .error stop => reportStop stop
