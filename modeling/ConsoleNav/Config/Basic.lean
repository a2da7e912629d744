import ConsoleNav.Route.Filter
import ConsoleNav.Text.Span

/-!
The settings of the service, and layers of settings that are laid over them.
-/
namespace ConsoleNav

namespace Config

inductive MenuOrigin where
  | builtIn
  | remote (url : String) (retries : UInt32)
deriving DecidableEq

def defaultRetries : UInt32 := 2

end Config

structure Config where
  host : String := "127.0.0.1"
  port : UInt16 := 3000
  menuOrigin : Config.MenuOrigin := .builtIn
  /-- How many milliseconds a load may take. -/
  loadTimeout : UInt64 := 5000
  routeFilter : Route.FilterKind := .passThrough
  loadOnStartup : Bool := true
deriving DecidableEq

namespace Config

def address (c : Config) : String :=
  c.host ++ ":" ++ toString c.port.toNat

def timeoutText (c : Config) : String :=
  Text.spanText c.loadTimeout.toNat

structure Layer where
  host : Option String := none
  port : Option UInt16 := none
  menuOrigin : Option MenuOrigin := none
  loadTimeout : Option UInt64 := none
  routeFilter : Option Route.FilterKind := none
  loadOnStartup : Option Bool := none
deriving DecidableEq

def Layer.onto (l : Layer) (c : Config) : Config where
  host := l.host.getD c.host
  port := l.port.getD c.port
  menuOrigin := l.menuOrigin.getD c.menuOrigin
  loadTimeout := l.loadTimeout.getD c.loadTimeout
  routeFilter := l.routeFilter.getD c.routeFilter
  loadOnStartup := l.loadOnStartup.getD c.loadOnStartup

theorem Layer.onto_empty (c : Config) : Layer.onto {} c = c := rfl

theorem getD_getD_self {α : Type} (o : Option α) (a : α) : o.getD (o.getD a) = o.getD a := by
  cases o <;> rfl

theorem Layer.onto_onto_self (l : Layer) (c : Config) : l.onto (l.onto c) = l.onto c := by
  simp only [Layer.onto, getD_getD_self]

end Config

end ConsoleNav
