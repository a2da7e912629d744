import ConsoleNav.Proofs.Menu.Lines
import ConsoleNav.Proofs.Menu.Shape
import ConsoleNav.Proofs.Text.Splitting

/-!
What a drawing tells. Where no caption breaks its line and no root begins like a branch, the lines are read
back as the depths and the captions of all entries, and with the depths the drawing tells the shape.
-/
namespace ConsoleNav.Menu

/-- The depth and the caption that a line tells. -/
def readLine : List Char → Nat × List Char
  | line@(c :: _ :: _ :: _ :: rest) =>
    if c = ' ' ∨ c = '│' then ((readLine rest).1 + 1, (readLine rest).2)
    else if c = '├' ∨ c = '└' then (1, rest.drop 2)
    else (0, line)
  | line => (0, line)

def readDrawing (text : String) : List (Nat × List Char) :=
  (Text.splitAt '\n' text.toList).dropLast.map readLine

/-- A menu the drawing of which has one line for each entry, where only those of roots begin with a name. -/
structure IsLegible (menu : List Entry) : Prop where
  unbroken : ∀ e ∈ entries menu, '\n' ∉ e.name.toList ∧ '\n' ∉ e.id.toList ∧
    ∀ route ∈ e.routeText, '\n' ∉ route.toList
  roots : ∀ e ∈ menu, e.name ≠ "" ∧ e.name.toList.head? ∉ [some ' ', some '│', some '├', some '└']

variable {menu other : List Entry} {p : Placed}

/-! ### Lines -/

theorem readLine_column (depth : Nat) (rest : List Char) :
    readLine ((p.column depth).toList ++ rest) = ((readLine rest).1 + 1, (readLine rest).2) := by
  unfold Placed.column
  split <;> rfl

theorem readLine_columns (depths : List Nat) (rest : List Char) :
    readLine ((String.join (depths.map fun j => p.column (j + 1))).toList ++ rest) =
      ((readLine rest).1 + depths.length, (readLine rest).2) := by
  induction depths with
  | nil => rfl
  | cons depth depths ih =>
      rw [List.map_cons, String.join_cons, String.toList_append, List.append_assoc, readLine_column, ih,
        List.length_cons, Nat.add_assoc]

theorem readLine_branch (depth : Nat) (e : Entry) (rest : List Char) :
    readLine ((p.branch depth).toList ++ (e.mark.toList ++ (" ".toList ++ rest))) = (1, rest) := by
  rw [toList_mark]
  unfold Placed.branch
  split <;> rfl

theorem readLine_of_head {c : Char} {cs : List Char} (h : c ∉ [' ', '│', '├', '└']) :
    readLine (c :: cs) = (0, c :: cs) := by
  simp only [List.mem_cons, List.not_mem_nil, or_false, not_or] at h
  obtain ⟨hblank, hbar, htee, hcorner⟩ := h
  unfold readLine
  split
  · next hline =>
      cases hline
      rw [if_neg (not_or.mpr ⟨hblank, hbar⟩), if_neg (not_or.mpr ⟨htee, hcorner⟩)]
  · rfl

theorem IsLegible.readLine_caption (h : IsLegible menu) {e : Entry} (he : e ∈ menu) :
    readLine e.caption.toList = (0, e.caption.toList) := by
  obtain ⟨hne, hhead⟩ := h.roots e he
  obtain ⟨c, cs, hname⟩ := List.exists_cons_of_ne_nil (mt String.toList_eq_nil_iff.mp hne)
  have hc : c ∉ [' ', '│', '├', '└'] := by
    rw [hname] at hhead
    simpa using hhead
  simp only [Entry.caption, String.toList_append, hname, List.cons_append]
  exact readLine_of_head hc

/-- Every line tells how many entries are around its entry, and the caption. -/
theorem IsLegible.readLine_line (h : IsLegible menu) (hp : p.IsIn menu) :
    readLine p.line.toList = (p.outer.length, p.entry.caption.toList) := by
  cases hp with
  | root here => exact h.readLine_caption (List.mem_of_getElem? here)
  | inner here within =>
      simp only [Placed.line_within, String.toList_append, List.append_assoc]
      rw [readLine_columns, List.length_range, readLine_branch, Nat.add_comm]
      rfl

theorem newline_not_mem_caption {e : Entry} (hname : '\n' ∉ e.name.toList) (hid : '\n' ∉ e.id.toList)
    (hroute : ∀ route ∈ e.routeText, '\n' ∉ route.toList) : '\n' ∉ e.caption.toList := by
  have htarget : '\n' ∉ e.target.toList := by
    unfold Entry.target
    split
    · next route hsome =>
        split
        · simp
        · simpa using hroute route hsome
    · simp
  simp [Entry.caption, hname, hid, htarget]

theorem newline_not_mem_line_of_caption (h : '\n' ∉ p.entry.caption.toList) : '\n' ∉ p.line.toList := by
  unfold Placed.line
  split
  · exact h
  · have hcolumn (depth : Nat) : '\n' ∉ (p.column depth).toList := by
      unfold Placed.column
      split <;> decide
    have hbranch (depth : Nat) : '\n' ∉ (p.branch depth).toList := by
      unfold Placed.branch
      split <;> decide
    have hmark : '\n' ∉ p.entry.mark.toList := by
      unfold Entry.mark
      split <;> decide
    simp [hcolumn, hbranch, hmark, h]

/-! ### Drawings -/

theorem IsLegible.newline_not_mem_line (h : IsLegible menu) (hp : p ∈ preorder menu) :
    '\n' ∉ p.line.toList := by
  obtain ⟨hname, hid, hroute⟩ := h.unbroken p.entry (entry_mem_entries hp)
  exact newline_not_mem_line_of_caption (newline_not_mem_caption hname hid hroute)

theorem toList_draw (menu : List Entry) :
    (draw menu).toList = ((preorder menu).map fun p => p.line.toList).flatMap (· ++ ['\n']) := by
  rw [draw, String.toList_ofList, flatMap_drawRoot 0, List.flatMap_map]
  rfl

theorem IsLegible.newline_not_mem_lines (h : IsLegible menu) :
    ∀ line ∈ (preorder menu).map (fun p => p.line.toList), '\n' ∉ line := by
  rw [List.forall_mem_map]
  exact fun p hp => h.newline_not_mem_line hp

/-- A drawing is read back as the depths and the captions of all entries. -/
theorem IsLegible.readDrawing_draw (h : IsLegible menu) :
    readDrawing (draw menu) =
      (preorder menu).map fun p => (p.outer.length, p.entry.caption.toList) := by
  rw [readDrawing, toList_draw, Text.splitAt_flatMap h.newline_not_mem_lines, List.dropLast_concat,
    List.map_map]
  apply List.map_congr_left
  intro p hp
  exact h.readLine_line (mem_preorder_iff.mp hp)

theorem IsLegible.count_newline (h : IsLegible menu) : (draw menu).toList.count '\n' = count menu := by
  rw [toList_draw, Text.count_flatMap h.newline_not_mem_lines, List.length_map, count_eq_length,
    ← map_entry_preorderFrom 0 menu, List.length_map]
  rfl

theorem SameShape.map_position (h : SameShape menu other) (index : Nat) :
    (preorderFrom index menu).map Placed.position = (preorderFrom index other).map Placed.position := by
  induction h generalizing index with
  | nil => rfl
  | @cons d e ds es within after ihWithin ihAfter =>
      have hinner (menu : List Entry) (holder : Entry) :
          ((preorderFrom 0 menu).map fun p => (p.within holder).at index).map Placed.position =
            ((preorderFrom 0 menu).map Placed.position).map (index :: ·) := by
        rw [List.map_map, List.map_map]
        rfl
      rw [preorderFrom_cons, preorderFrom_cons, List.map_append, List.map_append, List.map_cons,
        List.map_cons, hinner, hinner, ihWithin 0, ihAfter (index + 1)]

/-- Two legible menus with the same drawing have the same shape, and entries in the same place have the
same caption. -/
theorem drawing_tells_structure (h : IsLegible menu) (hother : IsLegible other)
    (hdraw : draw menu = draw other) :
    SameShape menu other ∧
    ((preorder menu).map fun p => (p.position, p.entry.caption)) =
      ((preorder other).map fun p => (p.position, p.entry.caption)) ∧
    (draw menu).toList.count '\n' = count menu := by
  -- Reading undoes drawing, so what is read of both drawings is the same.
  have hread : readDrawing (draw menu) = readDrawing (draw other) := congrArg readDrawing hdraw
  rw [h.readDrawing_draw, hother.readDrawing_draw] at hread
  have hdepths : (preorder menu).map (fun p => p.outer.length) =
      (preorder other).map fun p => p.outer.length := by
    simpa only [List.map_map, Function.comp_def] using congrArg (List.map Prod.fst) hread
  have hcaptions : (preorder menu).map (fun p => p.entry.caption) =
      (preorder other).map fun p => p.entry.caption := by
    simpa only [List.map_map, Function.comp_def, String.ofList_toList] using
      congrArg (List.map fun x => String.ofList x.2) hread
  have hshape : SameShape menu other := by
    rw [sameShape_iff_depths, ← map_visit_preorder, ← map_visit_preorder, List.map_map, List.map_map]
    exact hdepths
  refine ⟨hshape, ?_, h.count_newline⟩
  rw [← List.zip_map', ← List.zip_map', hcaptions]
  exact congrArg (List.zip · _) (hshape.map_position 0)

/-- An icon, an empty text for a route and an empty list of children leave no trace in a drawing. -/
theorem drawing_tells_structure_untraced :
    let leaf : Entry := { id := "C", name := "│ c", routeText := some "/c" }
    let group : Entry := { id := "B", name := "b", childList := some [leaf] }
    let root : Entry := { id := "A", name := "a", childList := some [group, leaf] }
    let children : List Entry := [{ group with iconText := some "i" }, { leaf with childList := some [] }]
    let other : List Entry := [{ root with routeText := some "", childList := some children }]
    IsLegible [root] ∧ IsLegible other ∧ draw [root] = draw other ∧ SameShape [root] other ∧
      ((preorder other).map fun p => (p.position, p.entry.caption)) =
        [([0], "a [A]"), ([0, 0], "b [B]"), ([0, 0, 0], "│ c [C] -> /c"), ([0, 1], "│ c [C] -> /c")] ∧
      (draw [root]).toList.count '\n' = 4 := by
  intro leaf group root children other
  have h : IsLegible [root] := ⟨by decide, by decide⟩
  have hother : IsLegible other := ⟨by decide, by decide⟩
  have hdraw : draw [root] = draw other := by decide
  obtain ⟨hshape, hplaces, hlines⟩ := drawing_tells_structure h hother hdraw
  exact ⟨h, hother, hdraw, hshape, hplaces.symm.trans (by decide), hlines⟩

end ConsoleNav.Menu
