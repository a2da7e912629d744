import ConsoleNav.Menu.Drawing
import ConsoleNav.Proofs.Menu.Preorder

/-!
A drawn menu, line by line. The place of an entry alone tells its line: a root has nothing before its
caption, and any other entry has a column for each entry around it but the root, a branch and a mark.
-/
namespace ConsoleNav.Menu

/-- What stands behind the id of an entry that has a route. -/
def Entry.target (e : Entry) : String :=
  match e.routeText with
  | some route => if route = "" then "" else " -> " ++ route
  | none => ""

def Entry.caption (e : Entry) : String :=
  e.name ++ " [" ++ e.id ++ "]" ++ e.target

def Entry.mark (e : Entry) : String :=
  if e.children = [] then "•" else "▸"

/-- On the way from a root to an entry in its place, that entry itself included: whether the one at a
depth is the last child of the one before it. -/
def Placed.isLastAt (p : Placed) : Nat → Bool
  | 0 => false
  | depth + 1 =>
    match p.outer[depth]?, p.position[depth + 1]? with
    | some holder, some i => i + 1 == holder.children.length
    | _, _ => false

def Placed.column (p : Placed) (depth : Nat) : String :=
  if p.isLastAt depth then "    " else "│   "

def Placed.branch (p : Placed) (depth : Nat) : String :=
  if p.isLastAt depth then "└── " else "├── "

/-- The line of an entry, of which there are columns for the depths from one on. -/
def Placed.line (p : Placed) : String :=
  match p.outer.length with
  | 0 => p.entry.caption
  | depth + 1 =>
    String.join ((List.range depth).map fun j => p.column (j + 1)) ++ p.branch (depth + 1) ++
      p.entry.mark ++ " " ++ p.entry.caption

variable {menu : List Entry} {p : Placed}

theorem toList_target (e : Entry) :
    e.target.toList = match e.route with
      | some route => " -> ".toList ++ route.toList
      | none => [] := by
  unfold Entry.target Entry.route Entry.nonempty
  cases e.routeText with
  | none => rfl
  | some route =>
      by_cases hroute : route = ""
      · rw [hroute]
        rfl
      · rw [Option.filter_some_pos (by simpa using hroute)]
        simp [hroute]

theorem toList_caption (e : Entry) : e.caption.toList = e.label := by
  simp only [Entry.caption, Entry.label, String.toList_append, toList_target]
  cases e.route <;> simp

theorem toList_mark (e : Entry) : e.mark.toList = [e.marker] := by
  by_cases h : e.children = []
  · simp [Entry.mark, Entry.marker, Entry.isGroup, h]
  · simp [Entry.mark, Entry.marker, Entry.isGroup, h]

/-! ### Lines of entries further in -/

theorem Placed.line_root (position : List Nat) (e : Entry) :
    (⟨position, [], e⟩ : Placed).line = e.caption := rfl

theorem Placed.line_within (index : Nat) (holder : Entry) (p : Placed) :
    ((p.within holder).at index).line =
      String.join ((List.range p.outer.length).map fun j =>
        ((p.within holder).at index).column (j + 1)) ++
      ((p.within holder).at index).branch (p.outer.length + 1) ++
      p.entry.mark ++ " " ++ p.entry.caption := rfl

theorem Placed.isLastAt_one (outermost index : Nat) (holder : Entry) (p : Placed) :
    (((p.at index).within holder).at outermost).isLastAt 1 = (index + 1 == holder.children.length) :=
  rfl

theorem Placed.line_child (outermost index : Nat) (holder e : Entry) :
    (((⟨[index], [], e⟩ : Placed).within holder).at outermost).line =
      (if index + 1 = holder.children.length then "└── " else "├── ") ++
        e.mark ++ " " ++ e.caption := by
  change String.join [] ++ (if (index + 1 == holder.children.length) = true then _ else _) ++ e.mark ++
    " " ++ e.caption = _
  rw [String.join_nil, String.empty_append]
  simp only [beq_iff_eq]

/-- One more entry around an entry puts one column before its line, and leaves the other columns. -/
theorem Placed.line_within_within (outermost index : Nat) (holder e : Entry) (p : Placed) :
    ((((p.within e).at index).within holder).at outermost).line =
      (if index + 1 = holder.children.length then "    " else "│   ") ++
        ((p.within e).at index).line := by
  have hfirst : ((((p.within e).at index).within holder).at outermost).column 1 =
      if index + 1 = holder.children.length then "    " else "│   " := by
    simp only [Placed.column, Placed.isLastAt_one, beq_iff_eq]
  rw [Placed.line_within, ← hfirst]
  change String.join ((List.range (p.outer.length + 1)).map _) ++ _ ++ _ ++ _ ++ _ = _
  rw [List.range_succ_eq_map, List.map_cons, List.map_map, String.join_cons, String.append_assoc,
    String.append_assoc, String.append_assoc, String.append_assoc]
  simp only [Placed.line_within, String.append_assoc]
  rfl

/-! ### Drawing -/

theorem toList_branchLine (margin : List Char) (last : Bool) (e : Entry) :
    e.branchLine margin last =
      margin ++ ((if last then "└── " else "├── ") ++ e.mark ++ " " ++ e.caption).toList ++ ['\n'] := by
  cases last <;>
    simp [Entry.branchLine, branch, toList_mark, toList_caption]

/-- Entries `index` and on of those that `holder` holds, drawn beside a margin. -/
theorem drawBelow_eq (margin : List Char) (holder : Entry) (outermost index : Nat) (menu : List Entry)
    (hindex : index + menu.length = holder.children.length) :
    drawBelow margin menu = (preorderFrom index menu).flatMap fun p =>
      margin ++ ((p.within holder).at outermost).line.toList ++ ['\n'] := by
  induction menu using forest_induction generalizing margin holder outermost index with
  | nil => rfl
  | cons e es ihChildren ihRest =>
      rw [List.length_cons] at hindex
      have hlast : es.isEmpty = true ↔ index + 1 = holder.children.length := by
        rw [List.isEmpty_iff, ← List.length_eq_zero_iff]
        omega
      have hrest : index + 1 + es.length = holder.children.length := by omega
      have hcolumn : column es.isEmpty =
          (if index + 1 = holder.children.length then "    " else "│   ").toList := by
        simp only [column, hlast]
        split <;> rfl
      -- The margin of what is below `e` ends in the column that `e` puts before those lines.
      rw [drawBelow, Entry.draw_eq, preorderFrom_cons,
        ihChildren _ e index 0 (Nat.zero_add _), ihRest margin holder outermost (index + 1) hrest,
        List.flatMap_append, List.flatMap_cons, List.flatMap_map, Placed.line_child, toList_branchLine]
      simp only [Placed.line_within_within, hlast, hcolumn, String.toList_append, List.append_assoc]

theorem flatMap_drawRoot (index : Nat) (menu : List Entry) :
    menu.flatMap Entry.drawRoot =
      (preorderFrom index menu).flatMap fun p => p.line.toList ++ ['\n'] := by
  induction menu generalizing index with
  | nil => rfl
  | cons e es ih =>
      rw [List.flatMap_cons, ih (index + 1), preorderFrom_cons, List.flatMap_append, List.flatMap_cons,
        List.flatMap_map, Placed.line_root, toList_caption, Entry.drawRoot,
        drawBelow_eq [] e index 0 e.children (Nat.zero_add _)]
      simp

theorem draw_eq (menu : List Entry) :
    draw menu = String.join ((preorder menu).map fun p => p.line ++ "\n") := by
  rw [← String.toList_inj, draw, String.toList_ofList, flatMap_drawRoot 0, String.toList_join,
    List.flatMap_map]
  simp only [String.toList_append]
  rfl

/-! ### Last children -/

theorem Placed.IsIn.head_position (h : p.IsIn menu) :
    ∃ i, p.position[0]? = some i ∧ menu[i]? = (p.outer ++ [p.entry])[0]? := by
  cases h with
  | root here => exact ⟨_, rfl, here⟩
  | inner here within => exact ⟨_, rfl, here⟩

/-- On the way to an entry, each one is the child of the one before it that the position names. -/
theorem Placed.IsIn.isLastAt_iff (h : p.IsIn menu) {depth : Nat} (hdepth : depth < p.outer.length) :
    ∃ holder child i, p.outer[depth]? = some holder ∧ p.position[depth + 1]? = some i ∧
      holder.children[i]? = some child ∧ (p.outer ++ [p.entry])[depth + 1]? = some child ∧
      (p.isLastAt (depth + 1) = true ↔ i + 1 = holder.children.length) := by
  induction h generalizing depth with
  | root here => exact absurd hdepth (Nat.not_lt_zero depth)
  | @inner menu index e q here within ih =>
      cases depth with
      | zero =>
          obtain ⟨i, hposition, hchild⟩ := within.head_position
          have hlast : ((q.within e).at index).isLastAt 1 = (i + 1 == e.children.length) := by
            change (match some e, q.position[0]? with
              | some holder, some i => i + 1 == holder.children.length
              | _, _ => false) = _
            rw [hposition]
          obtain ⟨child, hfirst⟩ : ∃ child, (q.outer ++ [q.entry])[0]? = some child := by
            cases q.outer <;> exact ⟨_, rfl⟩
          refine ⟨e, child, i, rfl, hposition, hchild.trans hfirst, hfirst, ?_⟩
          rw [hlast, beq_iff_eq]
      | succ depth => exact ih (Nat.lt_of_succ_lt_succ hdepth)

/-- A menu is drawn with one line for each visit of a walk, in the same order. -/
theorem drawn_line_by_line (menu : List Entry) :
    draw menu = String.join ((preorder menu).map fun p => p.line ++ "\n") ∧
    (preorder menu).map Placed.visit = walk menu ∧
    (∀ p, p ∈ preorder menu ↔ p.IsIn menu) ∧
    ∀ p ∈ preorder menu, ∀ depth < p.outer.length, ∃ holder child i,
      p.outer[depth]? = some holder ∧ p.position[depth + 1]? = some i ∧
        holder.children[i]? = some child ∧ (p.outer ++ [p.entry])[depth + 1]? = some child ∧
        (p.isLastAt (depth + 1) = true ↔ i + 1 = holder.children.length) := by
  refine ⟨draw_eq menu, map_visit_preorder menu, fun p => mem_preorder_iff, ?_⟩
  intro p hp depth hdepth
  exact (mem_preorder_iff.mp hp).isLastAt_iff hdepth

-- A root that is not the last one has no column below it.
example :
    let inner : Entry := { id := "C", name := "c", routeText := some "/c" }
    let outer : Entry := { id := "B", name := "b", childList := some [inner] }
    draw [{ id := "A", name := "a", childList := some [outer, { id := "D", name := "d" }] },
      { id := "E", name := "e", routeText := some "" }] =
        "a [A]\n├── ▸ b [B]\n│   └── • c [C] -> /c\n└── • d [D]\ne [E]\n" := by decide

end ConsoleNav.Menu
