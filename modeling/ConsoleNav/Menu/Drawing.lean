import ConsoleNav.Menu.Entry

/-!
A menu drawn as a tree of lines. Roots stand at the margin; below them branches lead to the entries,
and an entry is marked as a group or as a leaf.
-/
namespace ConsoleNav.Menu

def Entry.label (e : Entry) : List Char :=
  e.name.toList ++ ' ' :: '[' :: e.id.toList ++ ']' ::
    (match e.route with
    | some r => " -> ".toList ++ r.toList
    | none => [])

def Entry.marker (e : Entry) : Char :=
  if e.isGroup then '▸' else '•'

def branch (last : Bool) : List Char :=
  if last then "└── ".toList else "├── ".toList

def column (last : Bool) : List Char :=
  if last then "    ".toList else "│   ".toList

def Entry.branchLine (margin : List Char) (last : Bool) (e : Entry) : List Char :=
  margin ++ branch last ++ e.marker :: ' ' :: e.label ++ ['\n']

mutual
def Entry.draw (margin : List Char) (last : Bool) : Entry → List Char
  | e@⟨_, _, _, _, none, _⟩ => e.branchLine margin last
  | e@⟨_, _, _, _, some children, _⟩ =>
    e.branchLine margin last ++ drawBelow (margin ++ column last) children

def drawBelow (margin : List Char) : List Entry → List Char
  | [] => []
  | e :: es => e.draw margin es.isEmpty ++ drawBelow margin es
end

theorem Entry.draw_eq (margin : List Char) (last : Bool) (e : Entry) :
    e.draw margin last = e.branchLine margin last ++ drawBelow (margin ++ column last) e.children := by
  obtain ⟨_, _, _, _, children, _⟩ := e
  cases children <;> simp [Entry.draw, drawBelow]

def Entry.drawRoot (e : Entry) : List Char :=
  e.label ++ '\n' :: drawBelow [] e.children

def draw (menu : List Entry) : String :=
  String.ofList (menu.flatMap Entry.drawRoot)

end ConsoleNav.Menu
