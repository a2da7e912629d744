import Mathlib.Data.List.Lex

/-!
Positions in a forest: the numbers on the way from the top, one for each level. Of two positions the one
around the other is the lesser one, and otherwise the one that turns off at the earlier sibling.
-/
namespace ConsoleNav

/-- Positions in the order in which each one comes before those below it, and these before its later
siblings. -/
def IsParentsFirst (positions : List (List Nat)) : Prop :=
  positions.Pairwise (· < ·)

/-- Positions of what is within siblings, the first of which is number `index`. -/
def IsNumberedFrom (index : Nat) (positions : List (List Nat)) : Prop :=
  ∀ p ∈ positions, ∃ i rest, index ≤ i ∧ p = i :: rest

variable {within after : List (List Nat)} {index : Nat}

theorem not_prefix_of_ne {i j : Nat} (h : i ≠ j) (p q : List Nat) : ¬ i :: p <+: j :: q :=
  fun hprefix => h (List.cons_prefix_cons.mp hprefix).1

/-- A position, those below it, and those of what is within later siblings. -/
theorem isParentsFirst_append (hwithin : IsParentsFirst within) (hbelow : IsNumberedFrom 0 within)
    (hafter : IsParentsFirst after) (hlater : IsNumberedFrom (index + 1) after) :
    IsParentsFirst ([index] :: within.map (index :: ·) ++ after) := by
  have hsame : ∀ p q : List Nat, p < q → index :: p < index :: q := fun p q hpq =>
    List.cons_lt_cons_iff.mpr (.inr ⟨rfl, hpq⟩)
  have hnumber : ∀ p, ∀ q ∈ after, index :: p < q := by
    intro p q hq
    obtain ⟨i, rest, hi, rfl⟩ := hlater q hq
    exact List.cons_lt_cons_iff.mpr (.inl hi)
  refine List.pairwise_append.mpr ⟨List.pairwise_cons.mpr ⟨?_, ?_⟩, hafter, ?_⟩
  · rw [List.forall_mem_map]
    intro p hp
    obtain ⟨i, rest, -, rfl⟩ := hbelow p hp
    exact hsame [] (i :: rest) (List.nil_lt_cons i rest)
  · exact List.pairwise_map.mpr (hwithin.imp fun hpq => hsame _ _ hpq)
  · rw [List.forall_mem_cons, List.forall_mem_map]
    exact ⟨hnumber [], fun p _ => hnumber p⟩

end ConsoleNav
