import ConsoleNav.Menu.Entry

/-!
Walking a menu: every entry with its depth, an entry before its children. `find?` looks for an entry
by its id in the same order, and `count` counts the entries of all levels.
-/
namespace ConsoleNav.Menu

/-- An entry met on a walk, and how many entries hold it. -/
structure Visit where
  entry : Entry
  depth : Nat

mutual
/-- The visits of an entry at a depth and of all entries within it. -/
def Entry.visits (depth : Nat) : Entry → List Visit
  | e@⟨_, _, _, _, none, _⟩ => [⟨e, depth⟩]
  | e@⟨_, _, _, _, some children, _⟩ => ⟨e, depth⟩ :: visitsFrom (depth + 1) children

def visitsFrom (depth : Nat) : List Entry → List Visit
  | [] => []
  | e :: es => e.visits depth ++ visitsFrom depth es
end

theorem Entry.visits_eq (depth : Nat) (e : Entry) :
    e.visits depth = ⟨e, depth⟩ :: visitsFrom (depth + 1) e.children := by
  obtain ⟨_, _, _, _, children, _⟩ := e
  cases children <;> simp [Entry.visits, visitsFrom]

def walk (menu : List Entry) : List Visit :=
  visitsFrom 0 menu

mutual
/-- The first entry with an id among an entry and those within it. -/
def Entry.find? (id : String) : Entry → Option Entry
  | e@⟨i, _, _, _, none, _⟩ => if i = id then some e else none
  | e@⟨i, _, _, _, some children, _⟩ => if i = id then some e else Menu.find? id children

def find? (id : String) : List Entry → Option Entry
  | [] => none
  | e :: es =>
    match e.find? id with
    | some found => some found
    | none => find? id es
end

theorem Entry.find?_eq (id : String) (e : Entry) :
    e.find? id = if e.id = id then some e else Menu.find? id e.children := by
  obtain ⟨_, _, _, _, children, _⟩ := e
  cases children <;> simp [Entry.find?, Menu.find?]

mutual
/-- The number of entries an entry consists of, itself included. -/
def Entry.count : Entry → Nat
  | ⟨_, _, _, _, none, _⟩ => 1
  | ⟨_, _, _, _, some children, _⟩ => 1 + Menu.count children

def count : List Entry → Nat
  | [] => 0
  | e :: es => e.count + count es
end

theorem Entry.count_eq (e : Entry) : e.count = 1 + Menu.count e.children := by
  obtain ⟨_, _, _, _, children, _⟩ := e
  cases children <;> simp [Entry.count, Menu.count]

end ConsoleNav.Menu
