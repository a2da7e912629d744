import ConsoleNav.Address.Reader
import ConsoleNav.CommandLine.Command
import ConsoleNav.Config.File
import ConsoleNav.Menu.Drawing
import ConsoleNav.Service.App
import ConsoleNav.Service.Listener

/-!
Running a command: what is printed and how it ends.
-/
namespace ConsoleNav.CommandLine

inductive Outcome where
  | printed (text : String)
  | failed (message : String)
  /-- The arguments stand for no command. -/
  | misused
  | serving (c : Config)

namespace Outcome

def code : Outcome → Nat
  | .printed _ => 0
  | .failed _ => 1
  | .misused => 2
  | .serving _ => 0

def output : Outcome → String
  | .printed text => text
  | _ => ""

/-- The text that a command fails with, if it does. -/
def failure? : Outcome → Option String
  | .failed message => some message
  | _ => none

/-- What a failure is reported with. Records of what is done go to the same place and are left out. -/
def errorOutput (o : Outcome) : String :=
  match o.failure? with
  | some message => "Error: " ++ message ++ "\n"
  | none => ""

end Outcome

def matchLine (m : Route.RouteMatch) : String :=
  m.path ++ " -> " ++ " > ".intercalate m.chain ++ " (" ++ m.view.chunk ++ ")\n"

def printMenu (json : Bool) (app : App) : Outcome :=
  match app.store.load.1 with
  | some (.ok snapshot) =>
    .printed (if json then Json.Wire.encodePretty snapshot.menu ++ "\n" else Menu.draw snapshot.menu)
  | some (.error fault) => .failed fault.message
  | none => .failed Store.LoadFault.superseded.message

section Client

variable [Address.Client]

/-- Run a command where other services listen at the `occupied` ports. -/
def run (occupied : List UInt16) (c : Config) : Command → Outcome
  | .serve settings =>
    let c := settings.onto c
    match Service.listenFault? occupied c.host c.port with
    | some fault => .failed fault.message
    | none => .serving c
  | .menus json => printMenu json (App.ofConfig c)
  | .routes => .printed (Json.Wire.encodePretty (App.ofConfig c).table.records ++ "\n")
  | .resolve path =>
    match ((App.ofConfig c).table.resolve path).1 with
    | .ok m => .printed (matchLine m)
    | .error fault => .failed fault.message

/-- Run the command that arguments stand for, with the settings of a file and an environment. -/
def runArguments (occupied : List UInt16) (file : Option (List UInt8)) (env : Config.Environment)
    (arguments : List String) : Outcome :=
  match Command.ofArguments? arguments with
  | some command => run occupied (Config.loadOrDefault file env) command
  | none => .misused

end Client

end ConsoleNav.CommandLine
