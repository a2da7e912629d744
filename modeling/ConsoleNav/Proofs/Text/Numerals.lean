import ConsoleNav.Text.Numeral
import Mathlib.Data.List.Induction
import Mathlib.Data.Nat.Digits.Defs

/-!
Which texts stand for a natural number: decimal digits, the first of them the one of the highest place,
with a plus sign or without one.
-/
namespace ConsoleNav.Text

/-- The number that decimal digits make up. -/
def decimal (digits : List Char) : Nat :=
  Nat.ofDigits 10 (digits.reverse.map fun c => c.toNat - 48)

theorem decimal_concat (digits : List Char) (c : Char) :
    decimal (digits ++ [c]) = decimal digits * 10 + (c.toNat - 48) := by
  rw [decimal, List.reverse_append, List.reverse_singleton, List.singleton_append, List.map_cons,
    Nat.ofDigits_cons, Nat.mul_comm, Nat.add_comm]
  rfl

theorem foldl_eq_decimal (digits : List Char) :
    digits.foldl (fun n c => n * 10 + (c.toNat - 48)) 0 = decimal digits := by
  induction digits using List.reverseRecOn with
  | nil => rfl
  | append_singleton digits c ih =>
    rw [List.foldl_append, ih, decimal_concat]
    rfl

def IsNumeral (text : String) (n : Nat) : Prop :=
  ∃ digits, (text.toList = digits ∨ text.toList = '+' :: digits) ∧ digits ≠ [] ∧
    (∀ c ∈ digits, c.isDigit = true) ∧ decimal digits = n

theorem digitsValue?_eq_some_iff {cs : List Char} {n : Nat} :
    digitsValue? cs = some n ↔ cs ≠ [] ∧ (∀ c ∈ cs, c.isDigit = true) ∧ decimal cs = n := by
  rw [digitsValue?, foldl_eq_decimal]
  split
  · next h =>
    simp only [Bool.or_eq_true, List.isEmpty_iff, Bool.not_eq_true', List.all_eq_false] at h
    simp only [reduceCtorEq, false_iff, not_and]
    intro hne hall
    rcases h with h | ⟨c, hc, hdigit⟩
    · exact absurd h hne
    · exact absurd (hall c hc) hdigit
  · next h =>
    simp only [Bool.or_eq_true, List.isEmpty_iff, Bool.not_eq_true', List.all_eq_false, not_or,
      not_exists, not_and, not_not] at h
    simp only [Option.some.injEq, h.1, ne_eq, not_false_eq_true, true_and]
    exact ⟨fun heq => ⟨h.2, heq⟩, And.right⟩

theorem digitsValue?_plus (cs : List Char) : digitsValue? ('+' :: cs) = none := rfl

theorem isNumeral_iff {text : String} {n : Nat} :
    IsNumeral text n ↔
      digitsValue? text.toList = some n ∨ ∃ cs, text.toList = '+' :: cs ∧ digitsValue? cs = some n := by
  constructor
  · rintro ⟨digits, htext | htext, h⟩
    · exact .inl (htext ▸ digitsValue?_eq_some_iff.mpr h)
    · exact .inr ⟨digits, htext, digitsValue?_eq_some_iff.mpr h⟩
  · rintro (h | ⟨cs, htext, h⟩)
    · exact ⟨_, .inl rfl, digitsValue?_eq_some_iff.mp h⟩
    · exact ⟨cs, .inr htext, digitsValue?_eq_some_iff.mp h⟩

theorem natural?_eq_some_iff {limit n : Nat} {text : String} :
    natural? limit text = some n ↔ n < limit ∧ IsNumeral text n := by
  have hlimit (cs : List Char) : (do
      let m ← digitsValue? cs
      if m < limit then some m else none) = some n ↔ n < limit ∧ digitsValue? cs = some n := by
    simp only [Option.bind_eq_bind, Option.bind_eq_some_iff, Option.ite_none_right_eq_some,
      Option.some.injEq]
    constructor
    · rintro ⟨m, hm, hlt, rfl⟩
      exact ⟨hlt, hm⟩
    · rintro ⟨hlt, hn⟩
      exact ⟨n, hn, hlt, rfl⟩
  rw [isNumeral_iff, natural?]
  split
  · next cs hcs =>
    rw [hcs, digitsValue?_plus, hlimit]
    simp
  · next hplus =>
    rw [hlimit]
    have hnone : ¬ ∃ cs, text.toList = '+' :: cs ∧ digitsValue? cs = some n := by
      rintro ⟨cs, hcs, -⟩
      exact hplus cs hcs
    rw [or_iff_left hnone]

theorem truth?_eq_some_iff {text : String} {b : Bool} :
    truth? text = some b ↔ text = if b then "true" else "false" := by
  constructor
  · intro h
    rw [truth?] at h
    split at h
    · cases h
      assumption
    · split at h
      · cases h
        assumption
      · cases h
  · rintro rfl
    cases b <;> rfl

end ConsoleNav.Text
