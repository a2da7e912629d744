import ConsoleNav.Proofs.Position
import ConsoleNav.Proofs.Route.Erasure

/-!
The records of a table by their names. The records are listed in the order of their positions, each one
before those within it, and looking for a name takes the first record of this list that has it.
-/
namespace ConsoleNav.Route

mutual
def Record.preorder : Record → List Placed
  | r@⟨_, _, _, _, children⟩ => ⟨[], [], r⟩ :: (preorder 0 children).map (Placed.within r)

/-- Records, the first of which is number `index`, each one before those within it. -/
def preorder (index : Nat) : List Record → List Placed
  | [] => []
  | r :: rs => r.preorder.map (Placed.at index) ++ preorder (index + 1) rs
end

variable {rs : List Record} {p : Placed}

theorem preorder_cons (index : Nat) (r : Record) (rs : List Record) :
    preorder index (r :: rs) =
      ⟨[index], [], r⟩ :: ((preorder 0 r.children).map fun p => (p.within r).at index) ++
        preorder (index + 1) rs := by
  obtain ⟨path, name, view, isPublic, children⟩ := r
  rw [preorder, Record.preorder, List.map_cons, List.map_map]
  rfl

theorem preorder_perm_postorder (index : Nat) (rs : List Record) :
    (preorder index rs).Perm (postorder index rs) := by
  induction rs using records_induction generalizing index with
  | nil => exact .refl _
  | cons r rs ihChildren ihRest =>
      have hwithin := (ihChildren 0).map fun p => (p.within r).at index
      rw [preorder_cons, postorder, Record.postorder_eq, List.map_append, List.map_map]
      refine List.Perm.append ?_ (ihRest (index + 1))
      exact (hwithin.cons _).trans (List.perm_append_singleton _ _).symm

theorem mem_preorder_iff : p ∈ preorder 0 rs ↔ p.IsIn rs := by
  rw [(preorder_perm_postorder 0 rs).mem_iff, mem_postorder_iff]

theorem isNumberedFrom_preorder (index : Nat) (rs : List Record) :
    IsNumberedFrom index ((preorder index rs).map Placed.position) := by
  rw [IsNumberedFrom, List.forall_mem_map]
  intro p hp
  exact index_le_of_mem_postorder index rs p ((preorder_perm_postorder index rs).mem_iff.mp hp)

theorem isParentsFirst_preorder (index : Nat) (rs : List Record) :
    IsParentsFirst ((preorder index rs).map Placed.position) := by
  induction rs using records_induction generalizing index with
  | nil => exact .nil
  | cons r rs ihChildren ihRest =>
      have horder := isParentsFirst_append (ihChildren 0) (isNumberedFrom_preorder 0 r.children)
        (ihRest (index + 1)) (isNumberedFrom_preorder (index + 1) rs)
      rw [preorder_cons, List.map_append, List.map_cons, List.map_map]
      rwa [List.map_map] at horder

theorem find?_eq (name : String) (index : Nat) (rs : List Record) :
    find? name rs = ((preorder index rs).find? (·.leaf.name == name)).map Placed.leaf := by
  induction rs using records_induction generalizing index with
  | nil => rfl
  | cons r rs ihChildren ihRest =>
      rw [find?, Record.find?_eq, preorder_cons, List.cons_append]
      by_cases hname : r.name = name
      · rw [if_pos hname, List.find?_cons_of_pos (by simpa using hname)]
        rfl
      · have hwithin : (((preorder 0 r.children).map fun p => (p.within r).at index).find?
            (·.leaf.name == name)).map Placed.leaf = find? name r.children := by
          rw [ihChildren 0, List.find?_map, Option.map_map]
          rfl
        rw [if_neg hname, List.find?_cons_of_neg (by simpa using hname), List.find?_append,
          ← hwithin, ihRest (index + 1)]
        cases List.find? _ (List.map _ (preorder 0 r.children)) <;> rfl

theorem find?_eq_none_iff {name : String} :
    find? name rs = none ↔ ∀ p : Placed, p.IsIn rs → p.leaf.name ≠ name := by
  rw [find?_eq name 0, Option.map_eq_none_iff, List.find?_eq_none]
  simp only [mem_preorder_iff, beq_iff_eq]

end ConsoleNav.Route
