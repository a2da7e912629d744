/-!
Numerals in settings and arguments: decimal digits, after a sign where one is allowed.
-/
namespace ConsoleNav.Text

/-- The value of a text of decimal digits. There has to be one at least. -/
def digitsValue? (cs : List Char) : Option Nat :=
  if cs.isEmpty || !cs.all Char.isDigit then none
  else some (cs.foldl (fun n c => n * 10 + (c.toNat - 48)) 0)

/-- The natural number below `limit` that a text stands for. It may have a plus sign. -/
def natural? (limit : Nat) (s : String) : Option Nat := do
  let n ← match s.toList with
    | '+' :: cs => digitsValue? cs
    | cs => digitsValue? cs
  if n < limit then some n else none

/-- The integer that a text stands for. It may have a sign. -/
def integer? (s : String) : Option Int :=
  match s.toList with
  | '+' :: cs => (digitsValue? cs).map Int.ofNat
  | '-' :: cs => (digitsValue? cs).map fun n => -(n : Int)
  | cs => (digitsValue? cs).map Int.ofNat

def truth? (s : String) : Option Bool :=
  if s = "true" then some true
  else if s = "false" then some false
  else none

theorem natural?_lt {limit n : Nat} {s : String} (h : natural? limit s = some n) : n < limit := by
  unfold natural? at h
  split at h <;>
    · simp only [Option.bind_eq_bind, Option.bind_eq_some_iff] at h
      obtain ⟨m, -, h⟩ := h
      split at h
      · cases h; assumption
      · cases h

end ConsoleNav.Text
