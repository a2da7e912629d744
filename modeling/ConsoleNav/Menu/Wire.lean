import ConsoleNav.Json.Wire
import ConsoleNav.Menu.Violation

/-!
The JSON form of menu entries and violations.
-/
namespace ConsoleNav.Menu

open Json

/-- A member that is left out where there is no value. -/
def optionalMember (key : String) : Option Json → List (String × Json)
  | none => []
  | some v => [(key, v)]

mutual
def Entry.toJson : Entry → Json
  | ⟨id, name, icon, route, none, parent⟩ =>
    .object ([("menuId", .string id), ("menuName", .string name)] ++
      optionalMember "menuIcon" (icon.map .string) ++ optionalMember "menuRoute" (route.map .string) ++
      optionalMember "parentMenuId" (parent.map .string))
  | ⟨id, name, icon, route, some children, parent⟩ =>
    .object ([("menuId", .string id), ("menuName", .string name)] ++
      optionalMember "menuIcon" (icon.map .string) ++ optionalMember "menuRoute" (route.map .string) ++
      [("children", .array (entriesToJson children))] ++
      optionalMember "parentMenuId" (parent.map .string))

def entriesToJson : List Entry → List Json
  | [] => []
  | e :: es => e.toJson :: entriesToJson es
end

/-- The fields of an entry, given a reader of its children. -/
def Entry.shape (children : Reader (List Entry)) : Shape Entry where
  blank := ⟨"", "", none, none, none, none⟩
  fields := [
    .of "menuId" .always readString fun s e => { e with id := s },
    .of "menuName" .always readString fun s e => { e with name := s },
    .of "menuIcon" .never (readOption readString) fun s e => { e with iconText := s },
    .of "menuRoute" .never (readOption readString) fun s e => { e with routeText := s },
    .of "children" .never (readOption children) fun cs e => { e with childList := cs },
    .of "parentMenuId" .never (readOption readString) fun s e => { e with parent := s }]

/-- An entry nested at most `depth` deep. The list of its children takes up a level of its own. -/
def Entry.reader (size : Nat) : Nat → Reader Entry
  | 0 => readRecord size "struct MenuEntry" none
  | 1 => readRecord size "struct MenuEntry" (some (shape (readList size none)))
  | depth + 2 =>
    readRecord size "struct MenuEntry" (some (shape (readList size (some (Entry.reader size depth)))))

instance : Wire Entry where
  toJson := Entry.toJson
  reader := Entry.reader

def optionalString (s : Option String) : Json :=
  match s with
  | none => .null
  | some s => .string s

def Violation.toJson : Violation → Json
  | .emptyId name => .object [("kind", .string "empty_id"), ("menu_name", .string name)]
  | .duplicateId id => .object [("kind", .string "duplicate_id"), ("menu_id", .string id)]
  | .parentMismatch id expected found =>
    .object [("kind", .string "parent_mismatch"), ("menu_id", .string id),
      ("expected", optionalString expected), ("found", optionalString found)]

inductive ViolationKind where
  | emptyId
  | duplicateId
  | parentMismatch

def violationKinds : List (String × ViolationKind) :=
  [("empty_id", .emptyId), ("duplicate_id", .duplicateId), ("parent_mismatch", .parentMismatch)]

def Violation.ofBody : ViolationKind → Body → Except Cause Violation
  | .emptyId, body => do
    .ok (.emptyId (← body.take "struct variant MenuViolation::EmptyId" ""
      [⟨"menu_name", .always, fun _ v => takeString v⟩]))
  | .duplicateId, body => do
    .ok (.duplicateId (← body.take "struct variant MenuViolation::DuplicateId" ""
      [⟨"menu_id", .always, fun _ v => takeString v⟩]))
  | .parentMismatch, body => do
    let (id, expected, found) ← body.take "struct variant MenuViolation::ParentMismatch"
      (("", none, none) : String × Option String × Option String)
      [⟨"menu_id", .always, fun m v => do .ok { m with fst := ← takeString v }⟩,
        ⟨"expected", .inLists, fun m v => do .ok (m.1, ← takeOption takeString v, m.2.2)⟩,
        ⟨"found", .inLists, fun m v => do .ok (m.1, m.2.1, ← takeOption takeString v)⟩]
    .ok (.parentMismatch id expected found)

def Violation.reader (size depth : Nat) : Reader Violation := fun cs => do
  let ((kind, body), rest) ← readTagged size "internally tagged enum MenuViolation"
    (readTag violationKinds) (Wire.inner (readValue size) depth) cs
  .ok (← here (Violation.ofBody kind body), rest)

instance : Wire Violation where
  toJson := Violation.toJson
  reader := Violation.reader

end ConsoleNav.Menu
