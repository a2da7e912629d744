/-!
Spans of time, counted in milliseconds, as messages write them.
-/
namespace ConsoleNav.Text

/-- The three digits of a number below one thousand. -/
def threeDigits (n : Nat) : List Char :=
  [Nat.digitChar (n / 100 % 10), Nat.digitChar (n / 10 % 10), Nat.digitChar (n % 10)]

/-- A fraction of a second: a point and the digits up to the last one that is not zero. -/
def fractionText (millis : Nat) : List Char :=
  if millis = 0 then []
  else '.' :: ((threeDigits millis).reverse.dropWhile (· == '0')).reverse

/-- A span: from one second on in seconds, below in milliseconds, and nothing as no nanoseconds. -/
def spanText (millis : Nat) : String :=
  if millis = 0 then "0ns"
  else if millis < 1000 then toString millis ++ "ms"
  else toString (millis / 1000) ++ String.ofList (fractionText (millis % 1000)) ++ "s"

end ConsoleNav.Text
