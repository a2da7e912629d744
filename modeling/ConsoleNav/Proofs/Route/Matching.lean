import ConsoleNav.Proofs.Text.Splitting
import ConsoleNav.Route.Path
import Mathlib.Data.List.Forall2

/-!
Which paths a pattern matches. Here patterns and paths are both lists of segments as they are written,
and a segment of a pattern that begins with a colon stands for any segment of a path.
-/
namespace ConsoleNav.Route

/-- The segments of a path up to its query or fragment. -/
def pathSegments (path : String) : List String :=
  segmentsOf (path.toList.takeWhile fun c => c != '?' && c != '#')

/-- The full pattern of a record below one with the full pattern `base`. -/
def fullPattern (base : List String) (path : String) : List String :=
  if path.toList.head? = some '/' then segmentsOf path.toList else base ++ segmentsOf path.toList

def IsParameter (expected : String) : Prop :=
  expected.toList.head? = some ':'

def Matches (pattern segments : List String) : Prop :=
  List.Forall₂ (fun expected actual => IsParameter expected ∨ expected = actual) pattern segments

theorem segmentsOf_innerPath (path : String) :
    segmentsOf (innerPath path) = pathSegments path := by
  simp only [segmentsOf, innerPath, Text.stripBoth, pathSegments, Text.partsAt_reverse_dropWhile,
    Text.partsAt_dropWhile]

/-! ### Patterns -/

theorem extendPattern_map (base : List String) (path : String) :
    extendPattern (base.map Segment.ofString) path =
      (fullPattern base path).map Segment.ofString := by
  unfold extendPattern fullPattern
  split <;> simp

theorem ofString_cases (s : String) :
    (IsParameter s ∧ ∃ name, Segment.ofString s = .capture name) ∨
      (¬ IsParameter s ∧ Segment.ofString s = .literal s) := by
  unfold IsParameter Segment.ofString
  rcases s.toList with _ | ⟨c, cs⟩
  · exact .inr ⟨by simp, rfl⟩
  · by_cases hc : c = ':'
    · subst hc
      exact .inl ⟨rfl, _, rfl⟩
    · refine .inr ⟨by simpa using hc, ?_⟩
      split
      · rename_i heq
        cases heq
        exact absurd rfl hc
      · rfl

theorem isSome_matchSegments (pattern segments : List String) :
    (matchSegments (pattern.map Segment.ofString) segments).isSome ↔ Matches pattern segments := by
  unfold Matches
  induction pattern generalizing segments with
  | nil => cases segments <;> simp [matchSegments]
  | cons expected pattern ih =>
      cases segments with
      | nil =>
          rcases ofString_cases expected with ⟨-, name, h⟩ | ⟨-, h⟩ <;> simp [h, matchSegments]
      | cons actual segments =>
          rw [List.map_cons, List.forall₂_cons]
          rcases ofString_cases expected with ⟨hparameter, name, h⟩ | ⟨hliteral, h⟩
          · simp [h, matchSegments, hparameter, ih]
          · by_cases heq : expected = actual
            · subst heq
              simp [h, matchSegments, ih]
            · simp [h, matchSegments, heq, hliteral]

end ConsoleNav.Route
