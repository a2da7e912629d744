import ConsoleNav.Json.Value
import ConsoleNav.Route.Record

/-!
The part of a route table that a holder of permissions may navigate.
-/
namespace ConsoleNav.Route

/-- A permission for a route. Whatever else it says is carried along, in the order of the keys. -/
structure Permission where
  routeName : String
  extra : List (String × Json) := []

inductive FilterKind where
  | passThrough
  | permission
deriving DecidableEq

namespace FilterKind

def name : FilterKind → String
  | .passThrough => "pass-through"
  | .permission => "permission"

def builtName : FilterKind → String
  | .passThrough => "PassThrough"
  | .permission => "PermissionFilter"

def ofName? (s : String) : Option FilterKind :=
  if s = "pass-through" then some .passThrough
  else if s = "permission" then some .permission
  else none

theorem ofName?_name (k : FilterKind) : ofName? k.name = some k := by
  cases k <;> rfl

end FilterKind

/-- The message for a name that no filter has. -/
def unknownFilter (s : String) : String :=
  "unknown route filter '" ++ s ++ "'"

mutual
/-- A record as it is kept: with those records within it that are kept, if there are any or if it is
public or allowed itself. -/
def Record.keep (allowed : List String) : Record → Option Record
  | ⟨path, name, view, isPublic, children⟩ =>
    let children := keepAll allowed children
    if isPublic || allowed.contains name || !children.isEmpty then
      some ⟨path, name, view, isPublic, children⟩
    else none

def keepAll (allowed : List String) : List Record → List Record
  | [] => []
  | r :: rs =>
    match r.keep allowed with
    | some kept => kept :: keepAll allowed rs
    | none => keepAll allowed rs
end

/-- The records that are public, named by a permission, or hold such a record. -/
def permitted (permissions : List Permission) (rs : List Record) : List Record :=
  keepAll (permissions.map Permission.routeName) rs

def FilterKind.apply (k : FilterKind) (permissions : List Permission) (rs : List Record) : List Record :=
  match k with
  | .passThrough => rs
  | .permission => permitted permissions rs

end ConsoleNav.Route
