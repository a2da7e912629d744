/-!
Menu entries. A menu is a forest of entries; an entry holds its children and names the entry that
holds it.
-/
namespace ConsoleNav.Menu

/-- An entry of a menu. Only the id and the name are always present. -/
structure Entry where
  id : String
  name : String
  /-- The icon as given, where an empty text stands for no icon. -/
  iconText : Option String := none
  /-- The path of the route as given, where an empty text stands for no route. -/
  routeText : Option String := none
  /-- The children as given, where an absent list stands for an empty one. -/
  childList : Option (List Entry) := none
  /-- The id of the entry that holds this one. -/
  parent : Option String := none

namespace Entry

instance : Inhabited Entry := ⟨⟨"", "", none, none, none, none⟩⟩

/-- A text that is present and not empty. -/
def nonempty (s : Option String) : Option String :=
  s.filter (!·.isEmpty)

def icon (e : Entry) : Option String :=
  nonempty e.iconText

def route (e : Entry) : Option String :=
  nonempty e.routeText

def isNavigable (e : Entry) : Bool :=
  e.route.isSome

def children (e : Entry) : List Entry :=
  e.childList.getD []

/-- An entry with at least one child. -/
def isGroup (e : Entry) : Bool :=
  !e.children.isEmpty

@[simp] theorem children_mk (i n : String) (ic r : Option String) (cs : Option (List Entry))
    (p : Option String) : (Entry.mk i n ic r cs p).children = cs.getD [] := rfl

end Entry

end ConsoleNav.Menu
