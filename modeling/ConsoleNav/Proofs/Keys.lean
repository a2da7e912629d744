import Mathlib.Data.List.Nodup
import Mathlib.Data.List.Perm.Basic

/-!
Lists whose members have keys of their own.
-/
namespace ConsoleNav

variable {α : Type}

theorem filter_ne_of_not_mem {key : α → Nat} {xs : List α} {k : Nat}
    (h : k ∉ xs.map key) : xs.filter (key · != k) = xs := by
  rw [List.filter_eq_self]
  intro x hx
  rw [bne_iff_ne]
  rintro rfl
  exact h (List.mem_map_of_mem hx)

theorem map_filter_ne (key : α → Nat) (xs : List α) (k : Nat) :
    (xs.filter (key · != k)).map key = (xs.map key).filter (· != k) := by
  rw [List.filter_map]
  rfl

/-- A key that moves from the first list to the second one. -/
theorem perm_move {xs : List Nat} {x : Nat} (h : xs.Nodup) (hx : x ∈ xs) (ys : List Nat) :
    (xs.filter (· != x) ++ (ys ++ [x])).Perm (xs ++ ys) := by
  have hxs : xs.Perm (x :: xs.filter (· != x)) := by
    rw [← h.erase_eq_filter]
    exact List.perm_cons_erase hx
  rw [← List.append_assoc]
  exact (List.perm_append_singleton x _).trans (hxs.symm.append_right ys)

theorem find?_of_nodup {κ : Type} [BEq κ] [LawfulBEq κ] {key : α → κ} {xs : List α}
    (h : (xs.map key).Nodup) {x : α} (hx : x ∈ xs) : xs.find? (key · == key x) = some x := by
  induction xs with
  | nil => exact absurd hx List.not_mem_nil
  | cons y ys ih =>
      rw [List.map_cons, List.nodup_cons] at h
      rcases List.mem_cons.mp hx with rfl | hx
      · simp
      · have hne : key y ≠ key x := by
          intro heq
          exact h.1 (heq ▸ List.mem_map_of_mem hx)
        rw [List.find?_cons_of_neg (by simpa using hne)]
        exact ih h.2 hx

theorem existsUnique_getElem?_of_nodup {κ : Type} {key : α → κ} {xs : List α} (h : (xs.map key).Nodup)
    {x : α} (hx : x ∈ xs) : ∃! i : Nat, xs[i]? = some x := by
  obtain ⟨i, hi⟩ := List.mem_iff_getElem?.mp hx
  refine ⟨i, hi, fun j hj => ?_⟩
  obtain ⟨hjlt, hjx⟩ := List.getElem?_eq_some_iff.mp hj
  obtain ⟨hilt, hix⟩ := List.getElem?_eq_some_iff.mp hi
  exact h.of_map.getElem_inj_iff.mp (hjx.trans hix.symm)

theorem eq_of_nodup_filterMap {β : Type} {f : α → Option β} {xs : List α}
    (h : (xs.filterMap f).Nodup) {x y : α} {k : β} (hx : x ∈ xs) (hy : y ∈ xs) (hfx : f x = some k)
    (hfy : f y = some k) : x = y := by
  induction xs with
  | nil => exact absurd hx List.not_mem_nil
  | cons z zs ih =>
      have hrest : (zs.filterMap f).Nodup := h.sublist ((List.sublist_cons_self z zs).filterMap f)
      rcases List.mem_cons.mp hx with rfl | hx' <;> rcases List.mem_cons.mp hy with rfl | hy'
      · rfl
      · rw [List.filterMap_cons_some hfx, List.nodup_cons] at h
        exact absurd (List.mem_filterMap.mpr ⟨y, hy', hfy⟩) h.1
      · rw [List.filterMap_cons_some hfy, List.nodup_cons] at h
        exact absurd (List.mem_filterMap.mpr ⟨x, hx', hfx⟩) h.1
      · exact ih hrest hx' hy'

end ConsoleNav
