/-!
Blank characters: the code points with the Unicode property White_Space, and texts stripped of them
at both ends.
-/
namespace ConsoleNav.Text

/-- The White_Space property. -/
def isBlank (c : Char) : Bool :=
  let n := c.toNat
  (9 ≤ n && n ≤ 13) || n == 0x20 || n == 0x85 || n == 0xA0 || n == 0x1680 ||
    (0x2000 ≤ n && n ≤ 0x200A) || n == 0x2028 || n == 0x2029 || n == 0x202F || n == 0x205F ||
    n == 0x3000

theorem isBlank_of_isWhitespace {c : Char} (h : c.isWhitespace = true) : isBlank c = true := by
  simp only [Char.isWhitespace, Bool.or_eq_true, decide_eq_true_eq] at h
  rcases h with ((h | h) | h) | h <;> subst h <;> decide

/-- The characters `cs` without those at both ends that satisfy `p`. -/
def stripBoth (p : Char → Bool) (cs : List Char) : List Char :=
  ((cs.dropWhile p).reverse.dropWhile p).reverse

/-- The characters `cs` without those at the end that satisfy `p`. -/
def stripEnd (p : Char → Bool) (cs : List Char) : List Char :=
  (cs.reverse.dropWhile p).reverse

theorem stripBoth_nil (p : Char → Bool) : stripBoth p [] = [] := rfl

theorem stripEnd_nil (p : Char → Bool) : stripEnd p [] = [] := rfl

/-- A text without the blanks at its ends. -/
def trim (s : String) : String :=
  String.ofList (stripBoth isBlank s.toList)

end ConsoleNav.Text
