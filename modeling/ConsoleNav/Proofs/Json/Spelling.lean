import ConsoleNav.Json.Printer
import ConsoleNav.Json.Reader

/-!
JSON texts in any style of spacing, of which the compact and the pretty texts are two. How deep a text
is nested depends on its value only.
-/
namespace ConsoleNav.Json

def IsBlank (gap : List Char) : Prop :=
  ∀ c ∈ gap, isGap c = true

/-- The blanks before each item or member of a level, and those after a colon. -/
structure Style where
  line : Nat → List Char
  space : List Char
  line_blank : ∀ level, IsBlank (line level)
  space_blank : IsBlank space

mutual
/-- The text of a value of which the first line is begun at `level`. -/
def spell (st : Style) (level : Nat) : Json → List Char
  | .null => ['n', 'u', 'l', 'l']
  | .bool true => ['t', 'r', 'u', 'e']
  | .bool false => ['f', 'a', 'l', 's', 'e']
  | .number n => n.text
  | .string s => quote s
  | .array items => '[' :: spellItems st level true items
  | .object members => '\x7b' :: spellMembers st level true members

/-- The items from the first or from a later one on, and the end of the list. -/
def spellItems (st : Style) (level : Nat) (first : Bool) : List Json → List Char
  | [] => (if first then [] else st.line level) ++ [']']
  | v :: vs =>
    (if first then [] else [',']) ++ (st.line (level + 1) ++
      (v.spell st (level + 1) ++ spellItems st level false vs))

def spellMembers (st : Style) (level : Nat) (first : Bool) : List (String × Json) → List Char
  | [] => (if first then [] else st.line level) ++ ['\x7d']
  | (k, v) :: ms =>
    (if first then [] else [',']) ++ (st.line (level + 1) ++
      (quote k ++ (':' :: (st.space ++ (v.spell st (level + 1) ++ spellMembers st level false ms)))))
end

namespace Style

def compact : Style where
  line _ := []
  space := []
  line_blank _ _ hc := absurd hc List.not_mem_nil
  space_blank _ hc := absurd hc List.not_mem_nil

theorem newline_blank (level : Nat) : IsBlank (newline level) := by
  intro c hc
  rcases List.mem_cons.mp hc with rfl | hc
  · rfl
  · rw [List.eq_of_mem_replicate hc]
    rfl

def pretty : Style where
  line := newline
  space := [' ']
  line_blank := newline_blank
  space_blank c hc := by
    rw [List.mem_singleton.mp hc]
    rfl

end Style

mutual
theorem print_eq (level : Nat) : ∀ v : Json, v.print = v.spell .compact level
  | .null | .bool true | .bool false | .number _ | .string _ => by simp only [print, spell]
  | .array [] | .object [] => by
      simp [print, spell, spellItems, spellMembers]
  | .array (v :: vs) => by
      simp [print, spell, spellItems, Style.compact, print_eq (level + 1) v, printItems_eq level vs]
  | .object ((k, v) :: ms) => by
      simp [print, spell, spellMembers, Style.compact, print_eq (level + 1) v, printMembers_eq level ms]

theorem printItems_eq (level : Nat) :
    ∀ vs : List Json, printItems vs = spellItems .compact level false vs
  | [] => by simp [printItems, spellItems, Style.compact]
  | v :: vs => by
      simp [printItems, spellItems, Style.compact, print_eq (level + 1) v, printItems_eq level vs]

theorem printMembers_eq (level : Nat) :
    ∀ ms : List (String × Json), printMembers ms = spellMembers .compact level false ms
  | [] => by simp [printMembers, spellMembers, Style.compact]
  | (k, v) :: ms => by
      simp [printMembers, spellMembers, Style.compact, print_eq (level + 1) v,
        printMembers_eq level ms]
end

mutual
theorem layOut_eq (level : Nat) : ∀ v : Json, v.layOut level = v.spell .pretty level
  | .null | .bool true | .bool false | .number _ | .string _ => by simp only [layOut, spell]
  | .array [] | .object [] => by simp [layOut, spell, spellItems, spellMembers]
  | .array (v :: vs) => by
      simp [layOut, spell, spellItems, Style.pretty, layOut_eq (level + 1) v, layOutItems_eq level vs]
  | .object ((k, v) :: ms) => by
      simp [layOut, spell, spellMembers, Style.pretty, layOut_eq (level + 1) v,
        layOutMembers_eq level ms]

theorem layOutItems_eq (level : Nat) :
    ∀ vs : List Json, layOutItems level vs = spellItems .pretty level false vs
  | [] => by simp [layOutItems, spellItems, Style.pretty]
  | v :: vs => by
      simp [layOutItems, spellItems, Style.pretty, layOut_eq (level + 1) v, layOutItems_eq level vs]

theorem layOutMembers_eq (level : Nat) :
    ∀ ms : List (String × Json), layOutMembers level ms = spellMembers .pretty level false ms
  | [] => by simp [layOutMembers, spellMembers, Style.pretty]
  | (k, v) :: ms => by
      simp [layOutMembers, spellMembers, Style.pretty, layOut_eq (level + 1) v,
        layOutMembers_eq level ms]
end

mutual
/-- How many lists and objects lie within each other. -/
def nesting : Json → Nat
  | .array items => nestingItems items + 1
  | .object members => nestingMembers members + 1
  | _ => 0

def nestingItems : List Json → Nat
  | [] => 0
  | v :: vs => max v.nesting (nestingItems vs)

def nestingMembers : List (String × Json) → Nat
  | [] => 0
  | (_, v) :: ms => max v.nesting (nestingMembers ms)
end

theorem nestingItems_le {n : Nat} {vs : List Json} :
    nestingItems vs ≤ n ↔ ∀ v ∈ vs, v.nesting ≤ n := by
  induction vs with
  | nil => simp [nestingItems]
  | cons v vs ih => rw [nestingItems, Nat.max_le, ih, List.forall_mem_cons]

theorem nestingMembers_le {n : Nat} {ms : List (String × Json)} :
    nestingMembers ms ≤ n ↔ ∀ m ∈ ms, m.2.nesting ≤ n := by
  induction ms with
  | nil => simp [nestingMembers]
  | cons m ms ih => rw [nestingMembers, Nat.max_le, ih, List.forall_mem_cons]

/-- A value with fewer than `size` parts in every list and object, nested at most `depth` deep. -/
inductive Fits (size : Nat) : Nat → Json → Prop
  | scalar {depth : Nat} {v : Json} (h : v.nesting = 0) : Fits size depth v
  | array {depth : Nat} {vs : List Json} (few : vs.length < size)
      (parts : ∀ v ∈ vs, Fits size depth v) : Fits size (depth + 1) (.array vs)
  | object {depth : Nat} {ms : List (String × Json)} (few : ms.length < size)
      (parts : ∀ m ∈ ms, Fits size depth m.2) : Fits size (depth + 1) (.object ms)

theorem Fits.items {size depth : Nat} {vs : List Json} (h : Fits size depth (.array vs)) :
    ∃ d, depth = d + 1 ∧ vs.length < size ∧ ∀ v ∈ vs, Fits size d v := by
  cases h with
  | scalar h => simp [nesting] at h
  | array few parts => exact ⟨_, rfl, few, parts⟩

theorem Fits.members {size depth : Nat} {ms : List (String × Json)} (h : Fits size depth (.object ms)) :
    ∃ d, depth = d + 1 ∧ ms.length < size ∧ ∀ m ∈ ms, Fits size d m.2 := by
  cases h with
  | scalar h => simp [nesting] at h
  | object few parts => exact ⟨_, rfl, few, parts⟩

/-- There is a comma before every item but the first, and a bracket at the end. -/
theorem length_lt_spellItems (st : Style) (level : Nat) (vs : List Json) :
    vs.length < (spellItems st level false vs).length := by
  induction vs with
  | nil => simp [spellItems]
  | cons v vs ih =>
    simp only [spellItems, List.length_append, List.length_cons, Bool.false_eq_true, if_false]
    omega

theorem length_le_spellItems (st : Style) (level : Nat) (vs : List Json) :
    vs.length ≤ (spellItems st level true vs).length := by
  cases vs with
  | nil => exact Nat.zero_le _
  | cons v vs =>
    have := length_lt_spellItems st level vs
    simp only [spellItems, List.length_append, List.length_cons]
    omega

theorem length_le_spellMembers (st : Style) (level : Nat) (first : Bool) (ms : List (String × Json)) :
    ms.length ≤ (spellMembers st level first ms).length := by
  induction ms generalizing first with
  | nil => simp
  | cons m ms ih =>
    have := ih false
    simp only [spellMembers, List.length_append, List.length_cons]
    omega

mutual
/-- A text has room for the parts of its value. -/
theorem fits_of_spell (st : Style) {size : Nat} (level depth : Nat) :
    ∀ v : Json, v.nesting ≤ depth → (v.spell st level).length ≤ size → Fits size depth v
  | .null, _, _ | .bool _, _, _ | .number _, _, _ | .string _, _, _ => .scalar rfl
  | .array vs, hn, hs => by
      obtain ⟨d, rfl⟩ : ∃ d, depth = d + 1 := ⟨depth - 1, by simp [nesting] at hn; omega⟩
      simp only [nesting, spell, List.length_cons, Nat.add_le_add_iff_right] at hn hs
      refine .array ?_ (fits_items_of_spell st level d true vs hn (by omega))
      have := length_le_spellItems st level vs
      omega
  | .object ms, hn, hs => by
      obtain ⟨d, rfl⟩ : ∃ d, depth = d + 1 := ⟨depth - 1, by simp [nesting] at hn; omega⟩
      simp only [nesting, spell, List.length_cons, Nat.add_le_add_iff_right] at hn hs
      refine .object ?_ (fits_members_of_spell st level d true ms hn (by omega))
      have := length_le_spellMembers st level true ms
      omega

theorem fits_items_of_spell (st : Style) {size : Nat} (level depth : Nat) (first : Bool) :
    ∀ vs : List Json, nestingItems vs ≤ depth → (spellItems st level first vs).length ≤ size →
      ∀ v ∈ vs, Fits size depth v
  | [], _, _ => fun _ hv => absurd hv List.not_mem_nil
  | v :: vs, hn, hs => by
      simp only [nestingItems, Nat.max_le, spellItems, List.length_append] at hn hs
      rw [List.forall_mem_cons]
      exact ⟨fits_of_spell st (level + 1) depth v hn.1 (by omega),
        fits_items_of_spell st level depth false vs hn.2 (by omega)⟩

theorem fits_members_of_spell (st : Style) {size : Nat} (level depth : Nat) (first : Bool) :
    ∀ ms : List (String × Json), nestingMembers ms ≤ depth →
      (spellMembers st level first ms).length ≤ size → ∀ m ∈ ms, Fits size depth m.2
  | [], _, _ => fun _ hm => absurd hm List.not_mem_nil
  | (k, v) :: ms, hn, hs => by
      simp only [nestingMembers, Nat.max_le, spellMembers, List.length_append,
        List.length_cons] at hn hs
      rw [List.forall_mem_cons]
      exact ⟨fits_of_spell st (level + 1) depth v hn.1 (by omega),
        fits_members_of_spell st level depth false ms hn.2 (by omega)⟩
end

end ConsoleNav.Json
