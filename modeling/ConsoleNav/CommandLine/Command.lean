import ConsoleNav.CommandLine.Argument
import ConsoleNav.Config.Basic
import ConsoleNav.Text.Numeral

/-!
Commands, and the arguments that stand for them. An option may be given once; arguments that a command
does not know stand for no command.
-/
namespace ConsoleNav.CommandLine

inductive Command where
  /-- Serve requests, with settings laid over those of file and environment. -/
  | serve (settings : Config.Layer)
  /-- Load the menu and print it, drawn as a tree or as JSON. -/
  | menus (json : Bool)
  | routes
  | resolve (path : String)
deriving DecidableEq

def portOf? (s : String) : Option UInt16 := do
  let n ← Text.integer? s
  if 0 ≤ n ∧ n < 65536 then some (UInt16.ofNat n.toNat) else none

/-- Settings with one more option, which has a value. -/
def withOption? (name value : String) (l : Config.Layer) : Option Config.Layer :=
  if name = "host" then
    if l.host.isSome then none else some { l with host := some value }
  else if name = "port" then
    if l.port.isSome then none else (portOf? value).map fun n => { l with port := some n }
  else if name = "route-filter" then
    if l.routeFilter.isSome then none
    else (Route.FilterKind.ofName? value).map fun k => { l with routeFilter := some k }
  else none

/-- Settings with one more option, which has no value. -/
def withFlag? (name : String) (l : Config.Layer) : Option Config.Layer :=
  if name = "no-initial-load" then
    if l.loadOnStartup.isSome then none else some { l with loadOnStartup := some false }
  else none

/-- The settings that the arguments of the command to serve stand for. -/
def readSettings : List String → Config.Layer → Option Config.Layer
  | [], l => some l
  | s :: rest, l =>
    match Argument.ofString s with
    | .endOfOptions => if rest.isEmpty then some l else none
    | .plain _ => none
    | .long name (some value) => do readSettings rest (← withOption? name value l)
    | .long name none =>
      if name = "no-initial-load" then do readSettings rest (← withFlag? name l)
      else readValued name rest l
    | .short letter [] => if letter = 'p' then readValued "port" rest l else none
    | .short letter attached =>
      if letter = 'p' then do readSettings rest (← withOption? "port" (attachedValue attached) l)
      else none
where
  /-- The settings of arguments that begin with the value of an option. -/
  readValued (name : String) : List String → Config.Layer → Option Config.Layer
    | [], _ => none
    | value :: rest, l => if mayBeValue value then do readSettings rest (← withOption? name value l) else none

/-- Whether the drawing or the JSON form of the menu is asked for. -/
def readForm : List String → Bool → Option Bool
  | [], json => some json
  | s :: rest, json =>
    match Argument.ofString s with
    | .endOfOptions => if rest.isEmpty then some json else none
    | .long name none => if name = "json" ∧ !json then readForm rest true else none
    | _ => none

/-- The arguments that are no options, if there are no options. -/
def readPlain : List String → Option (List String)
  | [] => some []
  | s :: rest =>
    match Argument.ofString s with
    | .endOfOptions => some rest
    | .plain _ => do some (s :: (← readPlain rest))
    | _ => none

/-- The command that arguments stand for. Without any, it is to serve. -/
def Command.ofArguments? : List String → Option Command
  | [] => some (.serve {})
  | ["--"] => some (.serve {})
  | name :: rest =>
    if name = "serve" then (readSettings rest {}).map .serve
    else if name = "menus" then (readForm rest false).map .menus
    else if name = "routes" then
      match readPlain rest with
      | some [] => some .routes
      | _ => none
    else if name = "resolve" then
      match readPlain rest with
      | some [path] => some (.resolve path)
      | _ => none
    else none

end ConsoleNav.CommandLine
