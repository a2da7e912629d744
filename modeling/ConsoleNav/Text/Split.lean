/-!
Texts split at separators.
-/
namespace ConsoleNav.Text

/-- The parts of `cs` between the separators. -/
def splitAt (sep : Char) : List Char → List (List Char)
  | [] => [[]]
  | c :: cs =>
    if c = sep then [] :: splitAt sep cs
    else
      match splitAt sep cs with
      | [] => [[c]]
      | part :: parts => (c :: part) :: parts

theorem splitAt_ne_nil (sep : Char) (cs : List Char) : splitAt sep cs ≠ [] := by
  cases cs with
  | nil => simp [splitAt]
  | cons c cs =>
    simp only [splitAt]
    split
    · simp
    · split <;> simp

/-- The parts of `cs` between the separators that are not empty. -/
def partsAt (sep : Char) (cs : List Char) : List (List Char) :=
  (splitAt sep cs).filter fun part => !part.isEmpty

end ConsoleNav.Text
