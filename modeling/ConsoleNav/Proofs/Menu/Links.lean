import ConsoleNav.Proofs.Menu.Shape
import ConsoleNav.Proofs.Menu.Validation
import Mathlib.Data.List.Forall2

/-!
The links of entries to those that hold them. In a valid menu they lead from each entry through all that
hold it up to the top, and they tell the shape of the whole menu.
-/
namespace ConsoleNav.Menu

/-- Looking up the entry that an entry names as its holder, again and again, leads to the listed entries and
ends at one that names none. -/
inductive Climbs (menu : List Entry) : Entry → List Entry → Prop
  | top {e : Entry} (unheld : e.parent = none) : Climbs menu e []
  | up {e holder : Entry} {id : String} {holders : List Entry} (link : e.parent = some id)
      (found : find? id menu = some holder) (further : Climbs menu holder holders) :
      Climbs menu e (holder :: holders)

/-- The ids of all entries in the order of a walk, each with that of the entry named as its holder. -/
def links (menu : List Entry) : List (String × Option String) :=
  (walk menu).map fun v => (v.entry.id, v.entry.parent)

variable {menu other : List Entry} {e : Entry} {holders : List Entry} {p : Placed}

theorem Climbs.unique {holders' : List Entry} (h : Climbs menu e holders)
    (h' : Climbs menu e holders') : holders = holders' := by
  induction h generalizing holders' with
  | top unheld =>
      cases h' with
      | top => rfl
      | up link => rw [unheld] at link; cases link
  | up link found further ih =>
      cases h' with
      | top unheld => rw [link] at unheld; cases unheld
      | up link' found' further' =>
          rw [link] at link'
          cases link'
          rw [found] at found'
          cases found'
          rw [ih further']

/-! ### The way up -/

/-- The entry that holds another one directly is held by all the others that hold that one. -/
theorem Placed.IsIn.exists_holder {outer : List Entry} (h : p.IsIn menu)
    (houter : p.outer = outer ++ [e]) : ∃ position, (⟨position, outer, e⟩ : Placed).IsIn menu := by
  induction h generalizing outer with
  | root here => simp at houter
  | @inner menu i d q here within ih =>
      change d :: q.outer = outer ++ [e] at houter
      rcases outer with _ | ⟨first, outer⟩
      · obtain ⟨rfl, -⟩ := List.cons.inj houter
        exact ⟨[i], .root here⟩
      · obtain ⟨rfl, hinner⟩ := List.cons.inj houter
        obtain ⟨position, hposition⟩ := ih hinner
        exact ⟨i :: position, .inner here hposition⟩

theorem climbs_outer (h : isValid menu = true) (hp : p.IsIn menu) :
    Climbs menu p.entry p.outer.reverse := by
  have hlinked := (isWellFormed_iff.mp (isValid_iff.mp h)).2.2
  induction houter : p.outer using List.reverseRecOn generalizing p with
  | nil =>
      apply Climbs.top
      rw [hlinked p (mem_preorder_iff.mpr hp), Placed.holder, houter]
      rfl
  | append_singleton outer holder ih =>
      obtain ⟨position, hposition⟩ := hp.exists_holder houter
      have hlink : p.entry.parent = some holder.id := by
        rw [hlinked p (mem_preorder_iff.mpr hp), Placed.holder, houter, List.getLast?_concat]
        rfl
      have hfound : find? holder.id menu = some holder :=
        find?_of_mem_entries h (entry_mem_entries (mem_preorder_iff.mpr hposition))
      rw [List.reverse_append]
      exact .up hlink hfound (ih hposition rfl)

/-! ### The shape -/

theorem mem_links_iff {link : String × Option String} :
    link ∈ links menu ↔ ∃ e ∈ entries menu, (e.id, e.parent) = link := by
  rw [links, ← List.mem_map, entries, List.map_map]
  rfl

/-- Where the links are the same, so is the number of entries on the way up. -/
theorem Climbs.transfer {d : Entry} (hother : isValid other = true) (hlinks : links menu = links other)
    (h : Climbs menu e holders) (hid : d.id = e.id) (hparent : d.parent = e.parent) :
    ∃ holders', Climbs other d holders' ∧ holders'.length = holders.length := by
  induction h generalizing d with
  | top unheld => exact ⟨[], .top (hparent.trans unheld), rfl⟩
  | @up e holder id holders link found further ih =>
      rw [find?_eq] at found
      have hmem : (holder.id, holder.parent) ∈ links other := by
        rw [← hlinks, mem_links_iff]
        exact ⟨holder, List.mem_of_find?_eq_some found, rfl⟩
      have hid : holder.id = id := by simpa using List.find?_some found
      obtain ⟨holder', hholder', hsame⟩ := mem_links_iff.mp hmem
      rw [Prod.mk.injEq] at hsame
      obtain ⟨holders', hclimbs, hlength⟩ := ih hsame.1 hsame.2
      have hfound : find? id other = some holder' := by
        rw [← hid, ← hsame.1]
        exact find?_of_mem_entries hother hholder'
      exact ⟨holder' :: holders', .up (hparent.trans link) hfound hclimbs, congrArg (· + 1) hlength⟩

/-- Where links tell one place from another, they tell what holds of it. -/
theorem map_eq_map_of {α β γ : Type} {f : α → β} {g : α → γ} {xs ys : List α}
    (hsame : xs.map f = ys.map f) (h : ∀ x ∈ xs, ∀ y ∈ ys, f x = f y → g x = g y) :
    xs.map g = ys.map g := by
  rw [← List.forall₂_eq_eq_eq, List.forall₂_map_left_iff, List.forall₂_map_right_iff,
    List.forall₂_iff_zip] at hsame ⊢
  refine ⟨hsame.1, fun hmem => ?_⟩
  obtain ⟨hx, hy⟩ := List.of_mem_zip hmem
  exact h _ hx _ hy (hsame.2 hmem)

theorem depths_eq (h : isValid menu = true) (hother : isValid other = true)
    (hlinks : links menu = links other) :
    (walk menu).map Visit.depth = (walk other).map Visit.depth := by
  have hpairs : (walk menu).map _ = (walk other).map _ := hlinks
  rw [← map_visit_preorder, ← map_visit_preorder, List.map_map, List.map_map] at hpairs ⊢
  refine map_eq_map_of hpairs fun p hp q hq hsame => ?_
  obtain ⟨hid, hparent⟩ := Prod.mk.inj hsame
  have hp := climbs_outer h (mem_preorder_iff.mp hp)
  have hq := climbs_outer hother (mem_preorder_iff.mp hq)
  obtain ⟨holders, hclimbs, hlength⟩ := hp.transfer hother hlinks hid.symm hparent.symm
  rw [hclimbs.unique hq, List.length_reverse, List.length_reverse] at hlength
  exact hlength.symm

/-- In a valid menu the links to holders are a map of the whole menu. -/
theorem links_faithful (h : isValid menu = true) :
    (preorder menu).map Placed.visit = walk menu ∧
    (∀ p, p ∈ preorder menu ↔ p.IsIn menu) ∧
    (∀ p ∈ preorder menu,
      find? p.entry.id menu = some p.entry ∧
      p.outer.reverse.length = p.visit.depth ∧
      ∀ holders, Climbs menu p.entry holders ↔ holders = p.outer.reverse) ∧
    ∀ other, isValid other = true → links menu = links other →
      (walk menu).map Visit.depth = (walk other).map Visit.depth ∧ SameShape menu other := by
  refine ⟨map_visit_preorder menu, fun p => mem_preorder_iff, fun p hp => ?_,
    fun other hother hlinks => ?_⟩
  · have hclimbs := climbs_outer h (mem_preorder_iff.mp hp)
    refine ⟨find?_of_mem_entries h (entry_mem_entries hp), List.length_reverse, fun holders => ?_⟩
    exact ⟨fun hholders => hholders.unique hclimbs, fun hholders => hholders ▸ hclimbs⟩
  · have hdepths := depths_eq h hother hlinks
    exact ⟨hdepths, sameShape_iff_depths.mpr hdepths⟩

/-- Three levels, and the same links with other names and an empty list of children. -/
theorem links_faithful_three_levels :
    let third : Entry := { id := "C", name := "c", parent := some "B" }
    let second : Entry := { id := "B", name := "b", childList := some [third], parent := some "A" }
    let first : Entry := { id := "A", name := "a", childList := some [second] }
    let renamed : Entry := { id := "C", name := "d", childList := some [], parent := some "B" }
    let other : List Entry := [{ first with childList := some [{ second with childList := some [renamed] }] }]
    isValid [first] = true ∧ find? "C" [first] = some third ∧ Climbs [first] third [second, first] ∧
      isValid other = true ∧ links [first] = links other ∧ SameShape [first] other := by
  intro third second first renamed other
  have hvalid : isValid [first] = true := by decide
  have hother : isValid other = true := by decide
  have hlinks : links [first] = links other := by decide
  obtain ⟨-, -, hentries, hshape⟩ := links_faithful hvalid
  obtain ⟨hfind, -, hclimbs⟩ := hentries ⟨[0, 0, 0], [first, second], third⟩
    (List.mem_of_getElem? (i := 2) rfl)
  exact ⟨hvalid, hfind, (hclimbs _).mpr rfl, hother, hlinks, (hshape other hother hlinks).2⟩

end ConsoleNav.Menu
