import ConsoleNav.Menu.Fixture
import ConsoleNav.Store.Remote

/-!
Where menus come from: the built-in menu, a script of answers, or a remote source.
-/
namespace ConsoleNav.Store

/-- What a source does when it is asked. -/
structure Fetch where
  /-- How many milliseconds pass before it does anything. -/
  delay : Nat := 0
  /-- Whether it lets all other work go first, once, before it answers. -/
  yields : Bool := false
  /-- A menu that it sets itself just before it answers. -/
  writes : Option (List Menu.Entry) := none
  /-- The answer; none if it never comes. -/
  outcome : Option (Except FetchFault (List Menu.Entry))

/-- After how many milliseconds the source does something, if it ever does. -/
def Fetch.due (f : Fetch) : Option Nat :=
  if f.writes.isSome || f.outcome.isSome then some f.delay else none

inductive Source where
  /-- The built-in menu, after a delay if one is given. -/
  | builtIn (delay : Option Nat)
  /-- The answers of a script, one for each fetch. -/
  | script (fetches : List Fetch)
  /-- A remote source, and the responses it will get. -/
  | remote (r : Remote) (responses : List Response)

namespace Source

def describe : Source → String
  | .builtIn _ => "fixture"
  | .script _ => "scripted"
  | .remote r _ => "remote " ++ r.base

/-- The answer of a script that has come to its end. -/
def exhausted : Fetch where
  outcome := some (.error (.unreachable "script exhausted"))

/-- A report as what the source does. -/
def ofReport (report : Report) : Fetch where
  delay := report.waited
  outcome := report.outcome

/-- The next fetch, made for someone who waits `timeout` milliseconds at most, and the source after it. -/
def next (timeout : Nat) : Source → Fetch × Source
  | .builtIn none => ({ yields := true, outcome := some (.ok Menu.builtIn) }, .builtIn none)
  | .builtIn (some delay) => ({ delay, outcome := some (.ok Menu.builtIn) }, .builtIn (some delay))
  | .script [] => (exhausted, .script [])
  | .script (fetch :: rest) => (fetch, .script rest)
  | .remote r responses =>
    let report := r.ask (some timeout) responses
    (ofReport report, .remote r report.responses)

end Source

end ConsoleNav.Store
