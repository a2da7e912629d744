import ConsoleNav.Route.Path
import ConsoleNav.Route.Record

/-!
Resolving paths against a table of route records. A record nested deeper is preferred to the record
that holds it, and an earlier one to a later one.
-/
namespace ConsoleNav.Route

/-- A record found for a path: the records around it from the outside inwards, the record, its position,
and the captures of its pattern. -/
structure Hit where
  outer : List Record
  leaf : Record
  position : Position
  captures : List (String × String)

mutual
/-- The record for a path among the records within a record and the record itself, in this order. -/
def Record.search (base : Pattern) (segments : List String) : Record → Option Hit
  | r@⟨path, _, _, _, children⟩ =>
    let pattern := extendPattern base path
    match search pattern segments 0 children with
    | some hit => some { hit with outer := r :: hit.outer }
    | none => (matchSegments pattern segments).map fun captures => ⟨[], r, [], captures⟩

/-- The record for a path among records the first of which is number `index`. -/
def search (base : Pattern) (segments : List String) (index : Nat) : List Record → Option Hit
  | [] => none
  | r :: rs =>
    match r.search base segments with
    | some hit => some { hit with position := index :: hit.position }
    | none => search base segments (index + 1) rs
end

structure MatchedRoute where
  path : String
  name : String
  component : String
deriving DecidableEq

def Record.matched (r : Record) : MatchedRoute :=
  ⟨r.path, r.name, r.view.component⟩

structure RouteMatch where
  path : String
  name : String
  /-- The records from the outermost one to the one for the path. -/
  matched : List MatchedRoute
  params : List (String × String)
  view : ResolvedView
deriving DecidableEq

def RouteMatch.chain (m : RouteMatch) : List String :=
  m.matched.map MatchedRoute.name

def Hit.toMatch (path : String) (hit : Hit) : RouteMatch where
  path := normalizePath path
  name := hit.leaf.name
  matched := (hit.outer ++ [hit.leaf]).map Record.matched
  params := parameters hit.captures
  view := hit.leaf.view.located

/-- A path, in its normal form, that no record matches. -/
structure NotFound where
  path : String
deriving DecidableEq

def NotFound.message (e : NotFound) : String :=
  "no route matches path '" ++ e.path ++ "'"

structure Table where
  records : List Record

namespace Table

/-- The table of the console: the shell at the root with the home page within it, and the public pages
for login and registration. -/
def builtIn : Table where
  records := [
    { path := "/", name := "Root", view := ⟨"Root", false⟩,
      children := [{ path := "home", name := "Home", view := ⟨"Home", false⟩ }] },
    { path := "/login", name := "Login", view := ⟨"Login", false⟩, isPublic := true },
    { path := "/register", name := "Register", view := ⟨"Register", false⟩, isPublic := true }]

def hit? (t : Table) (path : String) : Option Hit :=
  search [] (segmentsOf (innerPath path)) 0 t.records

/-- The match for a path, and the table with the views along it resolved. -/
def resolve (t : Table) (path : String) : Except NotFound RouteMatch × Table :=
  match t.hit? path with
  | some hit => (.ok (hit.toMatch path), ⟨resolveAlong (hit.position) t.records⟩)
  | none => (.error ⟨normalizePath path⟩, t)

/-- The first record with a name, a record before those within it. -/
def find? (t : Table) (name : String) : Option Record :=
  Route.find? name t.records

/-- Resolve the view of the first record with a name. -/
def resolveView? (t : Table) (name : String) : Option (ResolvedView × Table) :=
  match t.find? name, positionOf? name 0 t.records with
  | some r, some position => some (r.view.located, ⟨resolveAt position t.records⟩)
  | _, _ => none

def resolvedNames (t : Table) : List String :=
  Route.resolvedNames t.records

end Table

end ConsoleNav.Route
