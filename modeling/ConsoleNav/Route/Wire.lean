import ConsoleNav.Json.Embedded
import ConsoleNav.Json.Wire
import ConsoleNav.Route.Filter
import ConsoleNav.Route.Table

/-!
The JSON form of route records, matches and permissions.
-/
namespace ConsoleNav.Route

open Json

def View.toJson (v : View) : Json :=
  .object [("component", .string v.component)]

def View.reader (size depth : Nat) : Reader View :=
  readFlatRecord size depth "struct ViewRef" {
    blank := ⟨"", false⟩
    fields := [.of "component" .always readString fun s v => { v with component := s }] }

instance : Wire View := ⟨View.toJson, View.reader⟩

mutual
def Record.toJson : Record → Json
  | ⟨path, name, view, isPublic, children⟩ =>
    .object ([("path", .string path), ("name", .string name), ("view", view.toJson),
      ("public", .bool isPublic)] ++
      (if children.isEmpty then [] else [("children", .array (recordsToJson children))]))

def recordsToJson : List Record → List Json
  | [] => []
  | r :: rs => r.toJson :: recordsToJson rs
end

/-- The fields of a record, given readers of its view and of its children. -/
def Record.shape (view : Reader View) (children : Reader (List Record)) : Shape Record where
  blank := ⟨"", "", ⟨"", false⟩, false, []⟩
  fields := [
    .of "path" .always readString fun s r => { r with path := s },
    .of "name" .always readString fun s r => { r with name := s },
    .of "view" .always view fun v r => { r with view := v },
    .of "public" .never readBool fun b r => { r with isPublic := b },
    .of "children" .never children fun rs r => { r with children := rs }]

/-- A record nested at most `depth` deep. The list of its children takes up a level of its own. -/
def Record.reader (size : Nat) : Nat → Reader Record
  | 0 => readRecord size "struct RouteRecord" none
  | 1 => readRecord size "struct RouteRecord" (some (shape (View.reader size 0) (readList size none)))
  | depth + 2 =>
    readRecord size "struct RouteRecord" (some (shape (View.reader size (depth + 1))
      (readList size (some (Record.reader size depth)))))

instance : Wire Record := ⟨Record.toJson, Record.reader⟩

def ResolvedView.toJson (v : ResolvedView) : Json :=
  .object [("component", .string v.component), ("chunk", .string v.chunk)]

def ResolvedView.reader (size depth : Nat) : Reader ResolvedView :=
  readFlatRecord size depth "struct ResolvedView" {
    blank := ⟨"", ""⟩
    fields := [
      .of "component" .always readString fun s v => { v with component := s },
      .of "chunk" .always readString fun s v => { v with chunk := s }] }

instance : Wire ResolvedView := ⟨ResolvedView.toJson, ResolvedView.reader⟩

def MatchedRoute.toJson (m : MatchedRoute) : Json :=
  .object [("path", .string m.path), ("name", .string m.name), ("component", .string m.component)]

def MatchedRoute.reader (size depth : Nat) : Reader MatchedRoute :=
  readFlatRecord size depth "struct MatchedRoute" {
    blank := ⟨"", "", ""⟩
    fields := [
      .of "path" .always readString fun s m => { m with path := s },
      .of "name" .always readString fun s m => { m with name := s },
      .of "component" .always readString fun s m => { m with component := s }] }

instance : Wire MatchedRoute := ⟨MatchedRoute.toJson, MatchedRoute.reader⟩

/-- Texts under their keys; the last one of each key stays. -/
def readTexts (size depth : Nat) : Reader (List (String × String)) := fun cs =>
  match skipGap cs with
  | '\x7b' :: rest =>
    if depth = 0 then .error ⟨[], .tooDeep⟩
    else do
      let member (key : String) (m : List (String × String)) : Reader (List (String × String)) :=
        fun cs => do
          let (s, cs) ← readMember key readString cs
          .ok (Keyed.insert key s m, cs)
      let (m, rest) ← readMembers member size true [] rest
      .ok (m, ← here (closeObject rest))
  | cs => refuse "a map" cs

def RouteMatch.toJson (m : RouteMatch) : Json :=
  .object [("path", .string m.path), ("name", .string m.name),
    ("matched", .array (m.matched.map MatchedRoute.toJson)),
    ("params", .object (m.params.map fun p => (p.1, .string p.2))), ("view", m.view.toJson)]

def RouteMatch.reader (size depth : Nat) : Reader RouteMatch :=
  readFlatRecord size depth "struct RouteMatch" {
    blank := ⟨"", "", [], [], ⟨"", ""⟩⟩
    fields := [
      .of "path" .always readString fun s m => { m with path := s },
      .of "name" .always readString fun s m => { m with name := s },
      .of "matched" .always (Wire.reader size (depth - 1)) fun ms m => { m with matched := ms },
      .of "params" .always (readTexts size (depth - 1)) fun ps m => { m with params := ps },
      .of "view" .always (ResolvedView.reader size (depth - 1)) fun v m => { m with view := v }] }

instance : Wire RouteMatch := ⟨RouteMatch.toJson, RouteMatch.reader⟩

def FilterKind.variants : List (String × FilterKind) :=
  [("pass-through", .passThrough), ("permission", .permission)]

instance : Wire FilterKind := ⟨fun k => .string k.name, fun _ depth => readVariant depth FilterKind.variants⟩

def Permission.toJson (p : Permission) : Json :=
  .object (("routeName", .string p.routeName) :: p.extra)

/-- A permission, which is always an object. What it carries along is expanded only once the route has been
found among its members. -/
def Permission.reader (size depth : Nat) : Reader Permission := fun cs =>
  match skipGap cs with
  | '\x7b' :: rest =>
    match depth with
    | 0 => .error ⟨[], .tooDeep⟩
    | depth + 1 => do
      let ((name, ms), rest) ←
        readMembers (readMarkedMember "routeName" readString (readValue size depth)) size true (none, []) rest
      match name with
      | none => .error ⟨[], .missingField "routeName"⟩
      | some name => do
        let carried ← here (expandMembers (readEmbedded size) ms.reverse)
        .ok (⟨name, Keyed.ofList (sortedValues carried)⟩, ← here (closeObject rest))
  | cs => refuse "struct Permission" cs

instance : Wire Permission := ⟨Permission.toJson, Permission.reader⟩

end ConsoleNav.Route
