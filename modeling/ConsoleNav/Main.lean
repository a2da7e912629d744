import ConsoleNav.CommandLine.Run

/-!
The program: arguments, environment and settings file in, text and exit code out.
-/
namespace ConsoleNav

/-- The variables that are set among those that settings are read from. -/
def readEnvironment : IO Config.Environment :=
  Config.variableNames.filterMapM fun name => do return (← IO.getEnv name).map fun text => (name, text)

/-- The settings file, if it can be read. -/
def readSettingsFile : IO (Option (List UInt8)) := do
  match Config.filePath? (← IO.getEnv "XDG_CONFIG_HOME") (← IO.getEnv "HOME") with
  | none => return none
  | some path => try return some (← IO.FS.readBinFile path).data.toList catch _ => return none

end ConsoleNav

open ConsoleNav in
def main (arguments : List String) : IO UInt32 := do
  let outcome := CommandLine.runArguments [] (← readSettingsFile) (← readEnvironment) arguments
  IO.print outcome.output
  IO.eprint outcome.errorOutput
  match outcome with
  | .misused => IO.eprintln "usage: serve [OPTIONS] | menus [--json] | routes | resolve PATH"
  | .serving c => IO.eprintln ("waiting for requests at " ++ c.address)
  | _ => pure ()
  return outcome.code.toUInt32
