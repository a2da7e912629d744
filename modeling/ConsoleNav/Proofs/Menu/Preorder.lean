import ConsoleNav.Proofs.Menu.Lookup

/-!
The entries of a menu in their places, an entry before those within it. A walk visits the entries in this
order, and the place of an entry tells which entries hold it.
-/
namespace ConsoleNav.Menu

/-- An entry in its place in a menu, with the entries around it from the outside inwards. -/
structure Placed where
  position : List Nat
  outer : List Entry
  entry : Entry

/-- The id of the entry that holds an entry, if there is one. -/
def Placed.holder (p : Placed) : Option String :=
  p.outer.getLast?.map Entry.id

def Placed.visit (p : Placed) : Visit :=
  ⟨p.entry, p.outer.length⟩

/-- An entry within `e` as one of the entries around `e` sees it. -/
def Placed.within (e : Entry) (p : Placed) : Placed :=
  { p with outer := e :: p.outer }

/-- An entry within number `index` of some entries. -/
def Placed.at (index : Nat) (p : Placed) : Placed :=
  { p with position := index :: p.position }

mutual
def Entry.preorder : Entry → List Placed
  | e@⟨_, _, _, _, none, _⟩ => [⟨[], [], e⟩]
  | e@⟨_, _, _, _, some children, _⟩ =>
    ⟨[], [], e⟩ :: (preorderFrom 0 children).map (Placed.within e)

/-- Entries, the first of which is number `index`, each one before those within it. -/
def preorderFrom (index : Nat) : List Entry → List Placed
  | [] => []
  | e :: es => e.preorder.map (Placed.at index) ++ preorderFrom (index + 1) es
end

def preorder (menu : List Entry) : List Placed :=
  preorderFrom 0 menu

/-- Where the entries of a menu are. -/
inductive Placed.IsIn : Placed → List Entry → Prop
  | root {menu : List Entry} {i : Nat} {e : Entry} (here : menu[i]? = some e) :
      IsIn ⟨[i], [], e⟩ menu
  | inner {menu : List Entry} {i : Nat} {e : Entry} {p : Placed} (here : menu[i]? = some e)
      (within : p.IsIn e.children) : IsIn ((p.within e).at i) menu

theorem Entry.preorder_eq (e : Entry) :
    e.preorder = ⟨[], [], e⟩ :: (preorderFrom 0 e.children).map (Placed.within e) := by
  obtain ⟨_, _, _, _, children, _⟩ := e
  cases children <;> simp [Entry.preorder, preorderFrom]

theorem preorderFrom_cons (index : Nat) (e : Entry) (es : List Entry) :
    preorderFrom index (e :: es) =
      ⟨[index], [], e⟩ ::
        ((preorderFrom 0 e.children).map fun p => (p.within e).at index) ++
          preorderFrom (index + 1) es := by
  rw [preorderFrom, Entry.preorder_eq, List.map_cons, List.map_map]
  rfl

/-- The outermost entries around an entry do not matter to it where others are between. -/
theorem Placed.holder_within (index : Nat) (e : Entry) (p : Placed) :
    ((p.within e).at index).holder = p.holder.or (some e.id) := by
  change ((e :: p.outer).getLast?).map Entry.id = (p.outer.getLast?.map Entry.id).or (some e.id)
  rw [List.getLast?_cons]
  cases p.outer.getLast? <;> rfl

/-! ### Walks -/

theorem map_visit_preorderFrom (depth index : Nat) (menu : List Entry) :
    (preorderFrom index menu).map (fun p => ⟨p.entry, depth + p.outer.length⟩) =
      visitsFrom depth menu := by
  induction menu using forest_induction generalizing depth index with
  | nil => rfl
  | cons e es ihChildren ihRest =>
      rw [preorderFrom_cons, visitsFrom, Entry.visits_eq, List.map_append, List.map_cons,
        List.map_map, ihRest depth (index + 1), ← ihChildren (depth + 1) 0]
      congr 3
      funext p
      change Visit.mk p.entry (depth + (p.outer.length + 1)) = ⟨p.entry, depth + 1 + p.outer.length⟩
      rw [Nat.add_right_comm, Nat.add_assoc]

theorem map_visit_preorder (menu : List Entry) : (preorder menu).map Placed.visit = walk menu := by
  rw [walk, ← map_visit_preorderFrom 0 0 menu]
  apply List.map_congr_left
  intro p _
  rw [Placed.visit, Nat.zero_add]

theorem map_entry_preorderFrom (index : Nat) (menu : List Entry) :
    (preorderFrom index menu).map Placed.entry = entries menu := by
  rw [← map_entry_visitsFrom menu 0, ← map_visit_preorderFrom 0 index menu, List.map_map]
  rfl

theorem entry_mem_entries {menu : List Entry} {p : Placed} (hp : p ∈ preorder menu) :
    p.entry ∈ entries menu := by
  rw [← map_entry_preorderFrom 0 menu]
  exact List.mem_map_of_mem hp

theorem map_id_preorderFrom (index : Nat) (menu : List Entry) :
    (preorderFrom index menu).map (fun p => p.entry.id) = ids menu := by
  rw [ids, ← map_entry_preorderFrom index menu, List.map_map]
  rfl

/-! ### Places -/

theorem mem_preorderFrom_iff {index : Nat} {menu : List Entry} {p : Placed} :
    p ∈ preorderFrom index menu ↔
      ∃ (i : Nat) (e : Entry), menu[i]? = some e ∧
        (p = ⟨[index + i], [], e⟩ ∨
          ∃ q ∈ preorderFrom 0 e.children, p = (q.within e).at (index + i)) := by
  induction menu generalizing index with
  | nil => simp [preorderFrom]
  | cons d menu ih =>
      rw [preorderFrom_cons, List.mem_append, List.mem_cons, List.mem_map, ih]
      constructor
      · rintro ((rfl | ⟨q, hq, rfl⟩) | ⟨i, e, he, hp⟩)
        · exact ⟨0, d, rfl, .inl rfl⟩
        · exact ⟨0, d, rfl, .inr ⟨q, hq, rfl⟩⟩
        · refine ⟨i + 1, e, by simpa using he, ?_⟩
          rwa [Nat.add_assoc, Nat.add_comm 1] at hp
      · rintro ⟨_ | i, e, he, hp⟩
        · cases he
          refine .inl (hp.imp id ?_)
          rintro ⟨q, hq, rfl⟩
          exact ⟨q, hq, rfl⟩
        · refine .inr ⟨i, e, by simpa using he, ?_⟩
          rwa [Nat.add_assoc, Nat.add_comm 1]

/-- The list holds all entries in all their places. -/
theorem mem_preorder_iff {menu : List Entry} {p : Placed} : p ∈ preorder menu ↔ p.IsIn menu := by
  constructor
  · intro hp
    -- There is one entry less around `p` with each level.
    induction houter : p.outer generalizing p menu with
    | nil =>
        obtain ⟨i, e, he, rfl | ⟨q, -, rfl⟩⟩ := mem_preorderFrom_iff.mp hp
        · rw [Nat.zero_add]
          exact .root he
        · cases houter
    | cons _ outer ih =>
        obtain ⟨i, e, he, rfl | ⟨q, hq, rfl⟩⟩ := mem_preorderFrom_iff.mp hp
        · cases houter
        · rw [Nat.zero_add]
          exact .inner he (ih hq (List.cons.inj houter).2)
  · intro h
    apply mem_preorderFrom_iff.mpr
    induction h with
    | @root menu i e here => exact ⟨i, e, here, .inl (by rw [Nat.zero_add])⟩
    | @inner menu i e p here within ih =>
        refine ⟨i, e, here, .inr ⟨p, mem_preorderFrom_iff.mpr ih, by rw [Nat.zero_add]⟩⟩

end ConsoleNav.Menu
