import ConsoleNav.Proofs.Menu.Validation

/-!
Menus with the same entries in another order. Whatever the order of the children of an entry, and of the
entries at the top, as many violations of each kind are reported of the same ids.
-/
namespace ConsoleNav.Menu

/-- Two menus that differ in the order of entries next to each other, at any levels. An absent list of
children stands for an empty one. -/
inductive Rearranged : List Entry → List Entry → Prop
  | nil : Rearranged [] []
  | cons {id name : String} {icon route parent : Option String} {inner inner' : Option (List Entry)}
      {es es' : List Entry} (within : Rearranged (inner.getD []) (inner'.getD []))
      (after : Rearranged es es') :
      Rearranged (⟨id, name, icon, route, inner, parent⟩ :: es) (⟨id, name, icon, route, inner', parent⟩ :: es')
  | swap (d e : Entry) (es : List Entry) : Rearranged (d :: e :: es) (e :: d :: es)
  | trans {menu middle other : List Entry} (first : Rearranged menu middle)
      (second : Rearranged middle other) : Rearranged menu other

/-- What validation sees of an entry in its place, but for the ids of the entries before it. -/
structure Card where
  id : String
  name : String
  parent : Option String
  holder : Option String

def Placed.card (p : Placed) : Card :=
  ⟨p.entry.id, p.entry.name, p.entry.parent, p.holder⟩

def Card.within (holder : String) (c : Card) : Card :=
  { c with holder := c.holder.or (some holder) }

def cards (menu : List Entry) : List Card :=
  (preorder menu).map Placed.card

def Entry.cards (e : Entry) : List Card :=
  ⟨e.id, e.name, e.parent, none⟩ :: (Menu.cards e.children).map (Card.within e.id)

/-- The violations of an entry, but for the repetition of an id. -/
def Card.faults (c : Card) : List Violation :=
  (if c.id = "" then [.emptyId c.name] else []) ++
    if c.parent = c.holder then [] else [.parentMismatch c.id c.holder c.parent]

/-- The entries that are reported for an id that an earlier one has. -/
def repeated (menu : List Entry) : List Entry :=
  flatMapBefore (fun before p => if .duplicateId p.entry.id ∈ p.faults before then [p.entry] else [])
    (preorder menu)

variable {menu other : List Entry}

theorem Rearranged.refl (menu : List Entry) : Rearranged menu menu := by
  induction menu using forest_induction with
  | nil => exact .nil
  | cons e es ihChildren ihRest =>
      obtain ⟨_, _, _, _, children, _⟩ := e
      exact .cons ihChildren ihRest

theorem Rearranged.of_perm (h : menu.Perm other) : Rearranged menu other := by
  induction h with
  | nil => exact .nil
  | cons e _ ih =>
      obtain ⟨_, _, _, _, children, _⟩ := e
      exact .cons (.refl (children.getD [])) ih
  | swap e d es => exact .swap d e es
  | trans _ _ ihFirst ihSecond => exact .trans ihFirst ihSecond

/-! ### Cards -/

theorem map_card_preorderFrom_cons (index : Nat) (e : Entry) (es : List Entry) :
    (preorderFrom index (e :: es)).map Placed.card =
      e.cards ++ (preorderFrom (index + 1) es).map Placed.card := by
  have hinner : (fun p => ((p.within e).at index).card) = Card.within e.id ∘ Placed.card := by
    funext p
    show Card.mk p.entry.id p.entry.name p.entry.parent ((p.within e).at index).holder = _
    rw [Placed.holder_within]
    rfl
  rw [preorderFrom_cons, List.map_append, List.map_cons, List.map_map, Entry.cards, cards, List.map_map,
    ← hinner]
  rfl

theorem map_card_preorderFrom (index : Nat) (menu : List Entry) :
    (preorderFrom index menu).map Placed.card = menu.flatMap Entry.cards := by
  induction menu generalizing index with
  | nil => rfl
  | cons e es ih => rw [map_card_preorderFrom_cons, ih, List.flatMap_cons]

theorem cards_eq (menu : List Entry) : cards menu = menu.flatMap Entry.cards :=
  map_card_preorderFrom 0 menu

theorem Rearranged.cards_perm (h : Rearranged menu other) : (cards menu).Perm (cards other) := by
  induction h with
  | nil => exact .refl _
  | @cons id name _ _ parent inner inner' es es' within after ihWithin ihAfter =>
      -- The two entries have the same id, so their children are seen with the same holder.
      rw [cards_eq, List.flatMap_cons, cards_eq, List.flatMap_cons, ← cards_eq, ← cards_eq]
      exact ((ihWithin.map (Card.within id)).cons ⟨id, name, parent, none⟩).append ihAfter
  | swap d e es =>
      rw [cards_eq, cards_eq]
      exact List.Perm.flatMap_right _ (.swap e d es)
  | trans _ _ ihFirst ihSecond => exact ihFirst.trans ihSecond

theorem map_id_cards (menu : List Entry) : (cards menu).map Card.id = ids menu := by
  rw [cards, List.map_map, ← map_id_preorderFrom 0 menu]
  rfl

/-! ### Violations -/

theorem count_faults (before : List Placed) (p : Placed) {v : Violation}
    (hv : ∀ id, v ≠ .duplicateId id) : (p.faults before).count v = p.card.faults.count v := by
  unfold Placed.faults Entry.faults Card.faults
  rw [List.count_append, List.count_append]
  congr 1
  show List.count v (if p.entry.id = "" then _ else _) = List.count v (if p.entry.id = "" then _ else _)
  by_cases hempty : p.entry.id = ""
  · rw [if_pos hempty, if_pos hempty]
    rfl
  · rw [if_neg hempty, if_neg hempty]
    -- What is before the entry only decides whether its id is repeated.
    split
    · exact List.count_eq_zero.mpr fun hmem => hv _ (List.mem_singleton.mp hmem)
    · rfl

theorem count_flatMapBefore_faults (ps : List Placed) {v : Violation}
    (hv : ∀ id, v ≠ .duplicateId id) :
    (flatMapBefore Placed.faults ps).count v = ((ps.map Placed.card).flatMap Card.faults).count v := by
  induction ps using List.reverseRecOn with
  | nil => rfl
  | append_singleton ps p ih =>
      rw [flatMapBefore_concat, List.count_append, ih, count_faults ps p hv, List.map_append,
        List.flatMap_append, List.count_append, List.map_singleton, List.flatMap_singleton]

theorem Rearranged.violations_perm (h : Rearranged menu other) :
    (violations menu).Perm (violations other) := by
  rw [List.perm_iff_count]
  intro v
  rw [violations_eq, violations_eq]
  by_cases hv : ∃ id, v = .duplicateId id
  · obtain ⟨id, rfl⟩ := hv
    have hids : (ids menu).Perm (ids other) := by
      rw [← map_id_cards, ← map_id_cards]
      exact h.cards_perm.map Card.id
    rw [count_duplicateId, count_duplicateId, preorder, preorder, map_id_preorderFrom,
      map_id_preorderFrom, hids.count_eq]
  · rw [not_exists] at hv
    rw [count_flatMapBefore_faults _ hv, count_flatMapBefore_faults _ hv]
    exact (h.cards_perm.flatMap_right Card.faults).count_eq v

theorem Rearranged.isValid_eq (h : Rearranged menu other) : isValid menu = isValid other :=
  h.violations_perm.isEmpty_eq

/-- The order of entries does not matter to validation: as many violations of each kind are reported, and
only their order and the entries that are reported for their ids depend on it. -/
theorem violations_rearranged :
    (∀ menu other, Rearranged menu other →
      isValid menu = isValid other ∧ (violations menu).Perm (violations other)) ∧
    ∃ menu other, Rearranged menu other ∧ violations menu ≠ violations other ∧
      (repeated menu).map Entry.name ≠ (repeated other).map Entry.name := by
  refine ⟨fun menu other h => ⟨h.isValid_eq, h.violations_perm⟩, ?_⟩
  let children : List Entry := [{ id := "B", name := "b", parent := some "A" },
    { id := "B", name := "c", parent := some "A" }, { id := "", name := "d", parent := some "A" }]
  let root (children : List Entry) : Entry := { id := "A", name := "a", childList := some children }
  refine ⟨[root children], [root children.reverse], ?_, by decide, by decide⟩
  exact .cons (.of_perm children.reverse_perm.symm) .nil

end ConsoleNav.Menu
