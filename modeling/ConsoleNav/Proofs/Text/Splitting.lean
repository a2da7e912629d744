import ConsoleNav.Text.Split
import Mathlib.Data.List.Induction

/-!
Texts split at separators and put together again. A part holds no separator, and where separators follow
each other or stand at an end, the parts beside them are empty.
-/
namespace ConsoleNav.Text

variable {sep : Char}

theorem intercalate_splitAt (sep : Char) (cs : List Char) :
    [sep].intercalate (splitAt sep cs) = cs := by
  induction cs with
  | nil => rfl
  | cons c cs ih =>
    rw [splitAt]
    obtain ⟨part, parts, hparts⟩ := List.exists_cons_of_ne_nil (splitAt_ne_nil sep cs)
    rw [hparts] at ih ⊢
    split
    · rename_i hsep
      rw [List.intercalate_cons_cons, ih, hsep]
      rfl
    · rw [← ih]
      cases parts with
      | nil => rfl
      | cons next parts => simp only [List.intercalate_cons_cons, List.cons_append]

theorem splitAt_of_not_mem {cs : List Char} (h : sep ∉ cs) : splitAt sep cs = [cs] := by
  induction cs with
  | nil => rfl
  | cons c cs ih =>
    rw [List.mem_cons, not_or] at h
    rw [splitAt, if_neg (Ne.symm h.1), ih h.2]

theorem splitAt_append_cons {cs : List Char} (h : sep ∉ cs) (ds : List Char) :
    splitAt sep (cs ++ sep :: ds) = cs :: splitAt sep ds := by
  induction cs with
  | nil => rw [List.nil_append, splitAt, if_pos rfl]
  | cons c cs ih =>
    rw [List.mem_cons, not_or] at h
    rw [List.cons_append, splitAt, if_neg (Ne.symm h.1), ih h.2]

theorem splitAt_intercalate {parts : List (List Char)} (hne : parts ≠ [])
    (h : ∀ part ∈ parts, sep ∉ part) : splitAt sep ([sep].intercalate parts) = parts := by
  induction parts with
  | nil => exact absurd rfl hne
  | cons part parts ih =>
    rw [List.forall_mem_cons] at h
    cases parts with
    | nil =>
      rw [List.intercalate_singleton]
      exact splitAt_of_not_mem h.1
    | cons next parts =>
      rw [List.intercalate_cons_cons, List.append_assoc, List.singleton_append,
        splitAt_append_cons h.1, ih (List.cons_ne_nil _ _) h.2]

/-- Where a separator ends each part, nothing comes after the last one. -/
theorem splitAt_flatMap {parts : List (List Char)} (h : ∀ part ∈ parts, sep ∉ part) :
    splitAt sep (parts.flatMap (· ++ [sep])) = parts ++ [[]] := by
  induction parts with
  | nil => rfl
  | cons part parts ih =>
    rw [List.forall_mem_cons] at h
    rw [List.flatMap_cons, List.append_assoc, List.singleton_append, splitAt_append_cons h.1, ih h.2]
    rfl

theorem count_flatMap {parts : List (List Char)} (h : ∀ part ∈ parts, sep ∉ part) :
    (parts.flatMap (· ++ [sep])).count sep = parts.length := by
  induction parts with
  | nil => rfl
  | cons part parts ih =>
    rw [List.forall_mem_cons] at h
    rw [List.flatMap_cons, List.count_append, List.count_append, List.count_eq_zero.mpr h.1,
      List.count_singleton_self, ih h.2, List.length_cons]
    omega

theorem mem_splitAt {cs part : List Char} (h : part ∈ splitAt sep cs) :
    sep ∉ part ∧ part ⊆ cs := by
  induction cs generalizing part with
  | nil =>
      rw [splitAt, List.mem_singleton] at h
      subst h
      exact ⟨List.not_mem_nil, List.Subset.refl _⟩
  | cons c cs ih =>
      obtain ⟨first, rest, hsplit⟩ := List.exists_cons_of_ne_nil (splitAt_ne_nil sep cs)
      rw [splitAt] at h
      split at h
      · rcases List.mem_cons.mp h with rfl | h
        · exact ⟨List.not_mem_nil, List.nil_subset _⟩
        · exact ⟨(ih h).1, List.subset_cons_of_subset c (ih h).2⟩
      · rename_i hc
        rw [hsplit] at h ih
        rcases List.mem_cons.mp h with rfl | h
        · obtain ⟨hsep, hsubset⟩ := ih List.mem_cons_self
          refine ⟨?_, List.cons_subset_cons c hsubset⟩
          rw [List.mem_cons, not_or]
          exact ⟨Ne.symm hc, hsep⟩
        · obtain ⟨hsep, hsubset⟩ := ih (List.mem_cons_of_mem first h)
          exact ⟨hsep, List.subset_cons_of_subset c hsubset⟩

/-! ### Parts that are not empty -/

theorem partsAt_cons_sep (sep : Char) (cs : List Char) :
    partsAt sep (sep :: cs) = partsAt sep cs := by
  simp [partsAt, splitAt]

theorem partsAt_dropWhile (sep : Char) (cs : List Char) :
    partsAt sep (cs.dropWhile (· == sep)) = partsAt sep cs := by
  induction cs with
  | nil => rfl
  | cons c cs ih =>
      by_cases hc : c = sep
      · subst hc
        rw [List.dropWhile_cons_of_pos (by simp), partsAt_cons_sep, ih]
      · rw [List.dropWhile_cons_of_neg (by simpa using hc)]

theorem splitAt_append_sep (sep : Char) (cs : List Char) :
    splitAt sep (cs ++ [sep]) = splitAt sep cs ++ [[]] := by
  induction cs with
  | nil => simp [splitAt]
  | cons c cs ih =>
      rw [List.cons_append, splitAt, splitAt, ih]
      by_cases hc : c = sep
      · simp [hc]
      · cases hsplit : splitAt sep cs with
        | nil => exact absurd hsplit (splitAt_ne_nil sep cs)
        | cons part parts => simp [hc]

theorem partsAt_reverse_dropWhile (sep : Char) (cs : List Char) :
    partsAt sep (cs.reverse.dropWhile (· == sep)).reverse = partsAt sep cs := by
  induction cs using List.reverseRecOn with
  | nil => rfl
  | append_singleton cs c ih =>
      rw [List.reverse_append, List.reverse_singleton, List.singleton_append]
      by_cases hc : c = sep
      · subst hc
        rw [List.dropWhile_cons_of_pos (by simp), ih]
        simp [partsAt, splitAt_append_sep]
      · rw [List.dropWhile_cons_of_neg (by simpa using hc)]
        simp

end ConsoleNav.Text
