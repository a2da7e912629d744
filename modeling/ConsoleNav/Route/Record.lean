/-!
Route records. A record maps a pattern of paths to a view and holds records nested below it. The place
of the code of a view is worked out when the view is first navigated to, and kept from then on.
-/
namespace ConsoleNav.Route

/-- A reference to a view, and whether its code has been located. -/
structure View where
  component : String
  resolved : Bool := false
deriving DecidableEq

structure ResolvedView where
  component : String
  chunk : String
deriving DecidableEq

def View.chunk (v : View) : String :=
  "/assets/views/" ++ v.component ++ ".js"

def View.located (v : View) : ResolvedView :=
  ⟨v.component, v.chunk⟩

def View.resolve (v : View) : View :=
  { v with resolved := true }

structure Record where
  path : String
  name : String
  view : View
  /-- Reachable without any permission. -/
  isPublic : Bool := false
  children : List Record := []

namespace Record

instance : Inhabited Record := ⟨⟨"", "", ⟨"", false⟩, false, []⟩⟩

def withChildren (r : Record) (children : List Record) : Record :=
  { r with children := children }

def makePublic (r : Record) : Record :=
  { r with isPublic := true }

def resolveView (r : Record) : Record :=
  { r with view := r.view.resolve }

end Record

mutual
/-- Whether two records differ at most in which views have been located. -/
def Record.same : Record → Record → Bool
  | ⟨path, name, view, isPublic, children⟩, s =>
    path == s.path && name == s.name && view.component == s.view.component &&
      isPublic == s.isPublic && same children s.children

def same : List Record → List Record → Bool
  | [], [] => true
  | r :: rs, s :: ss => r.same s && same rs ss
  | _, _ => false
end

mutual
/-- The names of the records whose views have been located, a record before those within it. -/
def Record.resolvedNames : Record → List String
  | ⟨_, name, view, _, children⟩ => (if view.resolved then [name] else []) ++ resolvedNames children

def resolvedNames : List Record → List String
  | [] => []
  | r :: rs => r.resolvedNames ++ resolvedNames rs
end

/-- The place of a record in a table: which top-level record, which of its children, and so on. -/
abbrev Position := List Nat

def resolveAt : Position → List Record → List Record
  | [], rs => rs
  | [i], rs => rs.modify i Record.resolveView
  | i :: position, rs =>
    rs.modify i fun r => { r with children := resolveAt position r.children }

/-- Resolve the views of all records on the way to a position, the last one included. -/
def resolveAlong : Position → List Record → List Record
  | [], rs => rs
  | i :: position, rs =>
    rs.modify i fun r =>
      { r with view := r.view.resolve, children := resolveAlong position r.children }

mutual
/-- The first record with a name among a record and those within it. -/
def Record.find? (name : String) : Record → Option Record
  | r@⟨_, n, _, _, children⟩ => if n = name then some r else Route.find? name children

def find? (name : String) : List Record → Option Record
  | [] => none
  | r :: rs =>
    match r.find? name with
    | some found => some found
    | none => find? name rs
end

mutual
/-- The position within a record of the first record with a name; the record itself is at the empty
position. -/
def Record.positionOf? (name : String) : Record → Option Position
  | ⟨_, n, _, _, children⟩ => if n = name then some [] else Route.positionOf? name 0 children

/-- The position of the first record with a name among records the first of which is number `index`. -/
def positionOf? (name : String) (index : Nat) : List Record → Option Position
  | [] => none
  | r :: rs =>
    match r.positionOf? name with
    | some position => some (index :: position)
    | none => positionOf? name (index + 1) rs
end

end ConsoleNav.Route
