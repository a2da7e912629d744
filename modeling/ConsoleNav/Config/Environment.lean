import ConsoleNav.Config.Basic
import ConsoleNav.Text.Blank
import ConsoleNav.Text.Numeral

/-!
The layer of settings that the environment gives. A variable whose text does not stand for a value of
its setting gives nothing.
-/
namespace ConsoleNav.Config

abbrev Environment := List (String × String)

/-- What the text of a variable stands for, without the blanks around it. -/
def Environment.read {α : Type} (env : Environment) (name : String) (parse : String → Option α) :
    Option α :=
  match env.lookup name with
  | some text => parse (Text.trim text)
  | none => none

def parsePort (s : String) : Option UInt16 :=
  (Text.natural? UInt16.size s).map UInt16.ofNat

def parseTimeout (s : String) : Option UInt64 :=
  (Text.natural? UInt64.size s).map UInt64.ofNat

def parseRetries (s : String) : Option UInt32 :=
  (Text.natural? UInt32.size s).map UInt32.ofNat

/-- The settings that the environment gives. The number of retries counts only beside an address. -/
def Layer.ofEnvironment (env : Environment) : Layer where
  host := env.lookup "JOB_ADMIN_HOST"
  port := env.read "JOB_ADMIN_PORT" parsePort
  loadTimeout := env.read "JOB_ADMIN_LOAD_TIMEOUT_MS" parseTimeout
  routeFilter := env.read "JOB_ADMIN_ROUTE_FILTER" Route.FilterKind.ofName?
  loadOnStartup := env.read "JOB_ADMIN_LOAD_ON_STARTUP" Text.truth?
  menuOrigin :=
    match env.lookup "JOB_ADMIN_MENU_URL" with
    | some url => some (.remote url ((env.read "JOB_ADMIN_FETCH_RETRIES" parseRetries).getD defaultRetries))
    | none => none

def variableNames : List String :=
  ["JOB_ADMIN_HOST", "JOB_ADMIN_PORT", "JOB_ADMIN_LOAD_TIMEOUT_MS", "JOB_ADMIN_ROUTE_FILTER",
    "JOB_ADMIN_LOAD_ON_STARTUP", "JOB_ADMIN_MENU_URL", "JOB_ADMIN_FETCH_RETRIES"]

end ConsoleNav.Config
