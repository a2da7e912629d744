import ConsoleNav.Menu.Entry
import ConsoleNav.Text.Quoted

/-!
The shape of a menu: ids are present and unique in the whole menu, and every entry names the entry that
holds it. `violations` lists what breaks these rules, in the order of a walk.
-/
namespace ConsoleNav.Menu

inductive Violation where
  | emptyId (name : String)
  | duplicateId (id : String)
  | parentMismatch (id : String) (expected found : Option String)
deriving DecidableEq

def Violation.message : Violation → String
  | .emptyId name => "entry '" ++ name ++ "' has an empty menuId"
  | .duplicateId id => "menuId '" ++ id ++ "' appears more than once"
  | .parentMismatch id expected found =>
    "entry '" ++ id ++ "' has parentMenuId " ++ Text.quotedOption found ++
      " but is contained by " ++ Text.quotedOption expected

/-- What is wrong with the id of an entry, given the ids met before it. -/
def idViolations (seen : List String) (e : Entry) : List Violation :=
  if e.id.isEmpty then [.emptyId e.name]
  else if seen.contains e.id then [.duplicateId e.id]
  else []

def parentViolations (holder : Option String) (e : Entry) : List Violation :=
  if e.parent = holder then [] else [.parentMismatch e.id holder e.parent]

def seenAfter (seen : List String) (e : Entry) : List String :=
  if e.id.isEmpty || seen.contains e.id then seen else e.id :: seen

mutual
/-- The violations of an entry and those within it, and the ids met after them. -/
def Entry.check (holder : Option String) (seen : List String) : Entry → List Violation × List String
  | e@⟨_, _, _, _, none, _⟩ => (idViolations seen e ++ parentViolations holder e, seenAfter seen e)
  | e@⟨id, _, _, _, some children, _⟩ =>
    let (vs, seen') := check (some id) (seenAfter seen e) children
    (idViolations seen e ++ parentViolations holder e ++ vs, seen')

def check (holder : Option String) (seen : List String) : List Entry → List Violation × List String
  | [] => ([], seen)
  | e :: es =>
    let (vs, seen) := e.check holder seen
    let (vs', seen) := check holder seen es
    (vs ++ vs', seen)
end

theorem Entry.check_eq (holder : Option String) (seen : List String) (e : Entry) :
    e.check holder seen =
      (idViolations seen e ++ parentViolations holder e ++
          (Menu.check (some e.id) (seenAfter seen e) e.children).1,
        (Menu.check (some e.id) (seenAfter seen e) e.children).2) := by
  obtain ⟨_, _, _, _, children, _⟩ := e
  cases children <;> simp [Entry.check, Menu.check]

def violations (menu : List Entry) : List Violation :=
  (check none [] menu).1

/-- A menu of the right shape. -/
def isValid (menu : List Entry) : Bool :=
  (violations menu).isEmpty

end ConsoleNav.Menu
