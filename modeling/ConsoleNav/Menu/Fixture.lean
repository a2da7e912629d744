import ConsoleNav.Menu.Entry

/-!
The built-in menu, served until a source is configured.
-/
namespace ConsoleNav.Menu

/-- An entry of the built-in menu, without icon and route. -/
def builtInEntry (id name : String) (parent : Option String) (children : Option (List Entry)) : Entry :=
  ⟨id, name, some "", some "", children, parent⟩

/-- Four levels and six entries. The children of `A001002` have ids that extend `A001001`; the entries
named as holders follow the tree and not the ids. -/
def builtIn : List Entry :=
  [builtInEntry "A001" "一级菜单A" none (some
    [builtInEntry "A001001" "二级菜单A-1" (some "A001") none,
      builtInEntry "A001002" "二级菜单A-2" (some "A001") (some
        [builtInEntry "A001001001" "三级菜单A-1-1" (some "A001002") (some
            [builtInEntry "A001001001001" "四级菜单A-1-1-1" (some "A001001001") none]),
          builtInEntry "A001001002" "三级菜单A-1-2" (some "A001002") none])])]

end ConsoleNav.Menu
