import ConsoleNav.Proofs.Menu.Lookup

/-!
The shape of a menu: how its entries hold each other, whatever else they say. The depths at which a walk
visits the entries tell the shape.
-/
namespace ConsoleNav.Menu

/-- Two menus hold their entries in the same way. -/
inductive SameShape : List Entry → List Entry → Prop
  | nil : SameShape [] []
  | cons {d e : Entry} {ds es : List Entry} (within : SameShape d.children e.children)
      (after : SameShape ds es) : SameShape (d :: ds) (e :: es)

/-- The depths of all entries in the order of a walk, where those at the top have the depth `depth`. -/
def depthsFrom (depth : Nat) (menu : List Entry) : List Nat :=
  (visitsFrom depth menu).map Visit.depth

variable {menu other : List Entry} {depth : Nat}

theorem depthsFrom_cons (depth : Nat) (e : Entry) (es : List Entry) :
    depthsFrom depth (e :: es) = depth :: (depthsFrom (depth + 1) e.children ++ depthsFrom depth es) := by
  simp only [depthsFrom, visitsFrom, Entry.visits_eq, List.cons_append, List.map_cons, List.map_append]

theorem SameShape.depthsFrom_eq (h : SameShape menu other) (depth : Nat) :
    depthsFrom depth menu = depthsFrom depth other := by
  induction h generalizing depth with
  | nil => rfl
  | cons within after ihWithin ihAfter => rw [depthsFrom_cons, depthsFrom_cons, ihWithin, ihAfter]

theorem head?_depthsFrom_append {rest : List Nat} (h : ∀ k ∈ rest.head?, k < depth) (menu : List Entry) :
    ∀ k ∈ (depthsFrom depth menu ++ rest).head?, k < depth + 1 := by
  intro k hk
  cases menu with
  | nil => exact Nat.lt_succ_of_lt (h k hk)
  | cons e es =>
      rw [depthsFrom_cons] at hk
      cases hk
      exact Nat.lt_succ_self depth

/-- The depths of entries end where a lesser one follows. -/
theorem sameShape_of_append {rest rest' : List Nat} (hrest : ∀ k ∈ rest.head?, k < depth)
    (hrest' : ∀ k ∈ rest'.head?, k < depth)
    (h : depthsFrom depth menu ++ rest = depthsFrom depth other ++ rest') :
    SameShape menu other ∧ rest = rest' := by
  induction menu using forest_induction generalizing depth other rest rest' with
  | nil =>
      cases other with
      | nil => exact ⟨.nil, h⟩
      | cons e es =>
          rw [depthsFrom_cons] at h
          subst h
          exact absurd (hrest depth rfl) (Nat.lt_irrefl depth)
  | cons d ds ihChildren ihRest =>
      cases other with
      | nil =>
          rw [depthsFrom_cons] at h
          subst h
          exact absurd (hrest' depth rfl) (Nat.lt_irrefl depth)
      | cons e es =>
          rw [depthsFrom_cons, depthsFrom_cons, List.cons_append, List.cons_append, List.cons.injEq,
            List.append_assoc, List.append_assoc] at h
          obtain ⟨hwithin, hafter⟩ := ihChildren (head?_depthsFrom_append hrest ds)
            (head?_depthsFrom_append hrest' es) h.2
          obtain ⟨hshape, htails⟩ := ihRest hrest hrest' hafter
          exact ⟨.cons hwithin hshape, htails⟩

theorem sameShape_iff_depths :
    SameShape menu other ↔ (walk menu).map Visit.depth = (walk other).map Visit.depth := by
  constructor
  · exact fun h => h.depthsFrom_eq 0
  · intro h
    have hempty : ∀ k ∈ ([] : List Nat).head?, k < 0 := fun k hk => nomatch hk
    exact (sameShape_of_append hempty hempty (congrArg (· ++ []) h)).1

end ConsoleNav.Menu
