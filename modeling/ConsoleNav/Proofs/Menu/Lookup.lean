import ConsoleNav.Menu.Walk

/-!
The entries of a menu as a list, in the order of a walk. Looking for an id takes the first entry of this
list that has it.
-/
namespace ConsoleNav.Menu

mutual
theorem Entry.children_induction {P : List Entry → Prop} (nil : P [])
    (cons : ∀ e es, P e.children → P es → P (e :: es)) : ∀ e : Entry, P e.children
  | ⟨_, _, _, _, none, _⟩ => nil
  | ⟨_, _, _, _, some children, _⟩ => forest_induction nil cons children

/-- What carries over from the children of an entry and the entries after it to all of them together
holds of every menu. -/
@[elab_as_elim]
theorem forest_induction {P : List Entry → Prop} (nil : P [])
    (cons : ∀ e es, P e.children → P es → P (e :: es)) : ∀ menu : List Entry, P menu
  | [] => nil
  | e :: es =>
      cons e es (Entry.children_induction nil cons e) (forest_induction nil cons es)
end

def entries (menu : List Entry) : List Entry :=
  (walk menu).map Visit.entry

def ids (menu : List Entry) : List String :=
  (entries menu).map Entry.id

variable {menu : List Entry} {id : String} {e : Entry}

theorem map_entry_visitsFrom (menu : List Entry) (depth : Nat) :
    (visitsFrom depth menu).map Visit.entry = entries menu := by
  show _ = (visitsFrom 0 menu).map Visit.entry
  generalize 0 = other
  induction menu using forest_induction generalizing depth other with
  | nil => rfl
  | cons e es ihChildren ihRest =>
    simp only [visitsFrom, Entry.visits_eq, List.cons_append, List.map_cons, List.map_append]
    rw [ihChildren (depth + 1) (other + 1), ihRest depth other]

theorem entries_cons (e : Entry) (es : List Entry) :
    entries (e :: es) = e :: (entries e.children ++ entries es) := by
  rw [← map_entry_visitsFrom (e :: es) 0]
  simp only [visitsFrom, Entry.visits_eq, List.cons_append, List.map_cons, List.map_append,
    map_entry_visitsFrom]

theorem count_eq_length (menu : List Entry) : count menu = (entries menu).length := by
  induction menu using forest_induction with
  | nil => rfl
  | cons e es ihChildren ihRest =>
    rw [count, Entry.count_eq, ihChildren, ihRest, entries_cons, List.length_cons,
      List.length_append]
    omega

theorem ids_cons (e : Entry) (es : List Entry) :
    ids (e :: es) = e.id :: (ids e.children ++ ids es) := by
  simp only [ids, entries_cons, List.map_cons, List.map_append]

theorem find?_eq (id : String) (menu : List Entry) :
    find? id menu = (entries menu).find? (·.id == id) := by
  induction menu using forest_induction with
  | nil => rfl
  | cons e es ihChildren ihRest =>
    rw [find?, Entry.find?_eq, entries_cons]
    by_cases hid : e.id = id
    · rw [if_pos hid, List.find?_cons_of_pos (by simpa using hid)]
    · rw [if_neg hid, List.find?_cons_of_neg (by simpa using hid), List.find?_append, ihChildren,
        ihRest]
      cases (entries e.children).find? (·.id == id) <;> rfl

theorem find?_eq_none_iff : find? id menu = none ↔ ∀ e ∈ entries menu, e.id ≠ id := by
  rw [find?_eq, List.find?_eq_none]
  simp only [beq_iff_eq]

theorem isSome_find?_iff : (find? id menu).isSome ↔ id ∈ ids menu := by
  rw [find?_eq, List.find?_isSome, ids, List.mem_map]
  simp only [beq_iff_eq]

end ConsoleNav.Menu
