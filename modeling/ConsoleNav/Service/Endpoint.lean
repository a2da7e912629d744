import ConsoleNav.Text.Target
import ConsoleNav.Text.Split

/-!
What the service can be asked for, and under which paths. Paths are compared as they are written, escapes
included.
-/
namespace ConsoleNav.Service

inductive Endpoint where
  | health
  | menu
  | load
  | status
  /-- The entry whose id, in its escaped form, is given. -/
  | entry (id : String)
  | routes
  | filter
  | resolve
deriving DecidableEq

namespace Endpoint

/-- The endpoint for the segments of a path below the version of the interface. -/
def ofSegments? : List String → Option Endpoint
  | ["health"] => some .health
  | ["menus"] => some .menu
  | ["menus", s] =>
    if s = "load" then some .load
    else if s = "status" then some .status
    else if s.isEmpty then none
    else some (.entry s)
  | ["routes"] => some .routes
  | ["routes", s] =>
    if s = "filter" then some .filter
    else if s = "resolve" then some .resolve
    else none
  | _ => none

def ofPath? (path : String) : Option Endpoint :=
  match (Text.splitAt '/' path.toList).map String.ofList with
  | "" :: "api" :: "v1" :: segments => ofSegments? segments
  | _ => none

def methods : Endpoint → List String
  | .menu => ["GET", "HEAD", "PUT"]
  | .load | .filter => ["POST"]
  | _ => ["GET", "HEAD"]

def allow (e : Endpoint) : String :=
  ",".intercalate e.methods

end Endpoint

end ConsoleNav.Service
