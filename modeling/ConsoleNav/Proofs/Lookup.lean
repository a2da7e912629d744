import ConsoleNav.Proofs.Menu.Subtrees
import ConsoleNav.Proofs.Route.Preorder

/-!
Looking up and going through all. A walk visits every entry of a menu once, in the order of the positions,
and whatever is looked up in a menu or in a table is the first one of all in this order.
-/
namespace ConsoleNav

/-- What is looked up by its id or its name is the first one in the order of positions, which is that of a
walk. -/
theorem lookups_follow_walks :
    (∀ menu : List Menu.Entry,
      (Menu.preorder menu).map Menu.Placed.visit = Menu.walk menu ∧
      (∀ p, p ∈ Menu.preorder menu ↔ p.IsIn menu) ∧
      IsParentsFirst ((Menu.preorder menu).map Menu.Placed.position) ∧
      (∀ p : Menu.Placed, p.IsIn menu →
        (∃! i : Nat, (Menu.preorder menu)[i]? = some p) ∧
        p.visit.depth = ((Menu.preorder menu).filter (·.holds p)).length ∧
        ∃ before after,
          Menu.preorder menu = before ++ p :: ((Menu.preorder p.entry.children).map p.below ++ after) ∧
          Menu.walk menu = before.map Menu.Placed.visit ++ p.visit ::
            (Menu.visitsFrom (p.visit.depth + 1) p.entry.children ++ after.map Menu.Placed.visit) ∧
          ∀ q ∈ before ++ after, p.holds q = false) ∧
      Menu.count menu = (Menu.walk menu).length ∧
      ∀ id, Menu.find? id menu = ((Menu.walk menu).find? (·.entry.id == id)).map Menu.Visit.entry ∧
        (Menu.find? id menu = none ↔ ∀ v ∈ Menu.walk menu, v.entry.id ≠ id)) ∧
    ∀ t : Route.Table,
      (∀ p, p ∈ Route.preorder 0 t.records ↔ p.IsIn t.records) ∧
      IsParentsFirst ((Route.preorder 0 t.records).map Route.Placed.position) ∧
      ∀ name, t.find? name =
          ((Route.preorder 0 t.records).find? (·.leaf.name == name)).map Route.Placed.leaf ∧
        (t.find? name = none ↔ ∀ p : Route.Placed, p.IsIn t.records → p.leaf.name ≠ name) := by
  refine ⟨fun menu => ⟨Menu.map_visit_preorder menu, fun p => Menu.mem_preorder_iff,
    Menu.isParentsFirst_preorderFrom 0 menu, fun p hp => ?_, Menu.count_eq_length_walk menu, fun id => ?_⟩,
    fun t => ⟨fun p => Route.mem_preorder_iff, Route.isParentsFirst_preorder 0 t.records, fun name => ?_⟩⟩
  · exact ⟨hp.existsUnique_getElem?, hp.depth_eq_length_holders, hp.exists_walk_split⟩
  · exact ⟨Menu.find?_eq_find?_walk id menu, Menu.find?_eq_none_iff_walk⟩
  · exact ⟨Route.find?_eq name 0 t.records, Route.find?_eq_none_iff⟩

-- An entry within an earlier one comes before a later one with the same id at the top.
example :
    let inner : Menu.Entry := { id := "B", name := "inner" }
    (Menu.find? "B" [{ id := "A", name := "outer", childList := some [inner] },
      { id := "B", name := "top" }]).map Menu.Entry.name = some "inner" := by decide

end ConsoleNav
