import ConsoleNav.Proofs.Keys
import ConsoleNav.Proofs.Menu.Preorder
import ConsoleNav.Proofs.Position

/-!
Subtrees in a walk. The entries of a menu come in the order of their positions, so that each is visited
once, and the visits of all entries within an entry follow its own without a break.
-/
namespace ConsoleNav.Menu

/-- The place in the whole menu of an entry that is at `q` among those within `p`. -/
def Placed.below (p q : Placed) : Placed :=
  ⟨p.position ++ q.position, p.outer ++ p.entry :: q.outer, q.entry⟩

/-- The entry in the first place holds the one in the second place, at any level. -/
def Placed.holds (q p : Placed) : Bool :=
  q.position.isPrefixOf p.position && q.position != p.position

variable {menu : List Entry} {p q : Placed} {i : Nat} {e : Entry}

/-! ### The order of positions -/

theorem position_of_mem_preorderFrom {index : Nat} (hp : p ∈ preorderFrom index menu) :
    ∃ i rest, index ≤ i ∧ i < index + menu.length ∧ p.position = i :: rest := by
  obtain ⟨i, e, he, hplace⟩ := mem_preorderFrom_iff.mp hp
  have hi : i < menu.length := (List.getElem?_eq_some_iff.mp he).1
  obtain rfl | ⟨q, -, rfl⟩ := hplace
  · exact ⟨index + i, [], by omega, by omega, rfl⟩
  · exact ⟨index + i, q.position, by omega, by omega, rfl⟩

theorem isNumberedFrom_preorderFrom (index : Nat) (menu : List Entry) :
    IsNumberedFrom index ((preorderFrom index menu).map Placed.position) := by
  rw [IsNumberedFrom, List.forall_mem_map]
  intro p hp
  obtain ⟨i, rest, hi, -, hposition⟩ := position_of_mem_preorderFrom hp
  exact ⟨i, rest, hi, hposition⟩

theorem isParentsFirst_preorderFrom (index : Nat) (menu : List Entry) :
    IsParentsFirst ((preorderFrom index menu).map Placed.position) := by
  induction menu using forest_induction generalizing index with
  | nil => exact .nil
  | cons e es ihChildren ihRest =>
      have horder := isParentsFirst_append (ihChildren 0) (isNumberedFrom_preorderFrom 0 e.children)
        (ihRest (index + 1)) (isNumberedFrom_preorderFrom (index + 1) es)
      rw [preorderFrom_cons, List.map_append, List.map_cons, List.map_map]
      rwa [List.map_map] at horder

theorem Placed.IsIn.existsUnique_getElem? (h : p.IsIn menu) : ∃! i : Nat, (preorder menu)[i]? = some p :=
  existsUnique_getElem?_of_nodup (List.Pairwise.nodup (isParentsFirst_preorderFrom 0 menu))
    (mem_preorder_iff.mpr h)

theorem Placed.IsIn.position_ne_nil (h : p.IsIn menu) : p.position ≠ [] := by
  cases h <;> exact List.cons_ne_nil _ _

/-! ### Subtrees -/

theorem preorderFrom_append (index : Nat) (ds es : List Entry) :
    preorderFrom index (ds ++ es) = preorderFrom index ds ++ preorderFrom (index + ds.length) es := by
  induction ds generalizing index with
  | nil => rfl
  | cons d ds ih =>
      rw [List.cons_append, preorderFrom, preorderFrom, ih, List.append_assoc, List.length_cons,
        Nat.add_assoc, Nat.add_comm 1]

/-- The entries within one at the top follow it without a break, and no other positions begin with its
number. -/
theorem exists_split_of_getElem? (here : menu[i]? = some e) :
    ∃ before after, preorder menu = before ++
        ⟨[i], [], e⟩ :: ((preorder e.children).map (fun q => (q.within e).at i) ++ after) ∧
      ∀ q ∈ before ++ after, ∃ j rest, j ≠ i ∧ q.position = j :: rest := by
  obtain ⟨hi, he⟩ := List.getElem?_eq_some_iff.mp here
  have hmenu : menu = menu.take i ++ e :: menu.drop (i + 1) := by
    rw [← he, List.getElem_cons_drop hi, List.take_append_drop]
  have hlength : (menu.take i).length = i := List.length_take_of_le (Nat.le_of_lt hi)
  refine ⟨preorder (menu.take i), preorderFrom (i + 1) (menu.drop (i + 1)), ?_, ?_⟩
  · conv_lhs => rw [hmenu, preorder, preorderFrom_append, preorderFrom_cons, Nat.zero_add, hlength]
    rfl
  · rw [List.forall_mem_append]
    constructor
    · intro q hq
      obtain ⟨j, rest, -, hj, hposition⟩ := position_of_mem_preorderFrom hq
      exact ⟨j, rest, by omega, hposition⟩
    · intro q hq
      obtain ⟨j, rest, hj, -, hposition⟩ := position_of_mem_preorderFrom hq
      exact ⟨j, rest, by omega, hposition⟩

/-- The entries within an entry follow it without a break, and there are no others below its position. -/
theorem Placed.IsIn.exists_split (h : p.IsIn menu) :
    ∃ before after, preorder menu = before ++ p :: ((preorder p.entry.children).map p.below ++ after) ∧
      ∀ q ∈ before ++ after, ¬ p.position <+: q.position := by
  induction h with
  | root here =>
      obtain ⟨before, after, hsplit, hothers⟩ := exists_split_of_getElem? here
      refine ⟨before, after, hsplit, fun q hq => ?_⟩
      obtain ⟨j, rest, hj, hposition⟩ := hothers q hq
      exact hposition ▸ not_prefix_of_ne hj.symm [] rest
  | @inner menu i e p here within ih =>
      obtain ⟨outerBefore, outerAfter, hsplit, hothers⟩ := exists_split_of_getElem? here
      obtain ⟨before, after, hinner, hinside⟩ := ih
      -- What is before and after the entry among the children of `e` keeps its order in the whole menu.
      let place (q : Placed) : Placed := (q.within e).at i
      refine ⟨outerBefore ++ ⟨[i], [], e⟩ :: before.map place, after.map place ++ outerAfter, ?_, ?_⟩
      · rw [hsplit, hinner]
        simp only [List.map_append, List.map_cons, List.map_map, List.append_assoc, List.cons_append]
        rfl
      · have houter : ∀ q ∈ outerBefore ++ outerAfter, ¬ i :: p.position <+: q.position := by
          intro q hq
          obtain ⟨j, rest, hj, hposition⟩ := hothers q hq
          exact hposition ▸ not_prefix_of_ne hj.symm p.position rest
        have hself : ¬ i :: p.position <+: [i] := by simpa using within.position_ne_nil
        have hplace : ∀ q ∈ before ++ after, ¬ i :: p.position <+: i :: q.position :=
          fun q hq hprefix => hinside q hq (List.cons_prefix_cons.mp hprefix).2
        rw [List.forall_mem_append] at houter hplace
        rw [List.forall_mem_append, List.forall_mem_append, List.forall_mem_append, List.forall_mem_cons,
          List.forall_mem_map, List.forall_mem_map]
        exact ⟨⟨houter.1, hself, hplace.1⟩, hplace.2, houter.2⟩

/-! ### Holders -/

theorem Placed.holds_iff : q.holds p = true ↔ q.position <+: p.position ∧ q.position ≠ p.position := by
  rw [Placed.holds, Bool.and_eq_true, List.isPrefixOf_iff_prefix, bne_iff_ne]

theorem Placed.holds_within (i : Nat) (e : Entry) (q p : Placed) :
    ((q.within e).at i).holds ((p.within e).at i) = q.holds p := by
  rw [Bool.eq_iff_iff, Placed.holds_iff, Placed.holds_iff]
  change i :: q.position <+: i :: p.position ∧ i :: q.position ≠ i :: p.position ↔ _
  simp

/-- The entries around an entry are those that hold it, in the order of a walk. -/
theorem Placed.IsIn.map_entry_holders (h : p.IsIn menu) :
    ((preorder menu).filter (·.holds p)).map Placed.entry = p.outer := by
  induction h with
  | @root menu i e here =>
      rw [List.map_eq_nil_iff, List.filter_eq_nil_iff]
      intro q hq hholds
      obtain ⟨j, rest, -, -, hposition⟩ := position_of_mem_preorderFrom hq
      rw [Placed.holds_iff, hposition] at hholds
      obtain ⟨rfl, hrest⟩ := List.cons_prefix_cons.mp hholds.1
      exact hholds.2 (congrArg (j :: ·) (List.prefix_nil.mp hrest))
  | @inner menu i e p here within ih =>
      obtain ⟨before, after, hsplit, hothers⟩ := exists_split_of_getElem? here
      have hself : (⟨[i], [], e⟩ : Placed).holds ((p.within e).at i) = true := by
        refine Placed.holds_iff.mpr ⟨List.prefix_append [i] p.position, ?_⟩
        change [i] ≠ i :: p.position
        simpa using within.position_ne_nil.symm
      -- No entry before `e` holds the entry, and none after those within `e`.
      have hnone : ∀ q ∈ before ++ after, ¬ q.holds ((p.within e).at i) = true := by
        intro q hq hholds
        obtain ⟨j, rest, hj, hposition⟩ := hothers q hq
        have hprefix : q.position <+: i :: p.position := (Placed.holds_iff.mp hholds).1
        exact not_prefix_of_ne hj rest p.position (hposition ▸ hprefix)
      rw [List.forall_mem_append, ← List.filter_eq_nil_iff, ← List.filter_eq_nil_iff] at hnone
      rw [hsplit, List.filter_append, hnone.1, List.nil_append, List.filter_cons, if_pos hself,
        List.filter_append, hnone.2, List.append_nil, List.filter_map, List.map_cons, List.map_map]
      refine congrArg (e :: ·) ?_
      rw [← ih]
      simp only [Function.comp_def, Placed.holds_within]
      rfl

theorem Placed.IsIn.depth_eq_length_holders (h : p.IsIn menu) :
    p.visit.depth = ((preorder menu).filter (·.holds p)).length := by
  rw [← List.length_map Placed.entry, h.map_entry_holders]
  rfl

/-! ### Visits -/

theorem map_visit_below (p : Placed) :
    (preorder p.entry.children).map (fun q => (p.below q).visit) =
      visitsFrom (p.visit.depth + 1) p.entry.children := by
  rw [← map_visit_preorderFrom (p.visit.depth + 1) 0]
  apply List.map_congr_left
  intro q _
  simp only [Placed.below, Placed.visit, List.length_append, List.length_cons]
  congr 1
  omega

/-- The visits of the entries within an entry follow its own without a break. -/
theorem Placed.IsIn.exists_walk_split (h : p.IsIn menu) :
    ∃ before after,
      preorder menu = before ++ p :: ((preorder p.entry.children).map p.below ++ after) ∧
      walk menu = before.map Placed.visit ++
        p.visit :: (visitsFrom (p.visit.depth + 1) p.entry.children ++ after.map Placed.visit) ∧
      ∀ q ∈ before ++ after, p.holds q = false := by
  obtain ⟨before, after, hsplit, hothers⟩ := h.exists_split
  refine ⟨before, after, hsplit, ?_, fun q hq => ?_⟩
  · rw [← map_visit_preorder, hsplit, ← map_visit_below, List.map_append, List.map_cons,
      List.map_append, List.map_map]
    rfl
  · rw [Bool.eq_false_iff, Ne, Placed.holds_iff]
    exact fun hholds => hothers q hq hholds.1

theorem find?_eq_find?_walk (id : String) (menu : List Entry) :
    find? id menu = ((walk menu).find? (·.entry.id == id)).map Visit.entry := by
  rw [find?_eq, entries, List.find?_map]
  rfl

theorem find?_eq_none_iff_walk {id : String} :
    find? id menu = none ↔ ∀ v ∈ walk menu, v.entry.id ≠ id := by
  rw [find?_eq_none_iff, entries, List.forall_mem_map]

theorem count_eq_length_walk (menu : List Entry) : count menu = (walk menu).length := by
  rw [count_eq_length, entries, List.length_map]

end ConsoleNav.Menu
