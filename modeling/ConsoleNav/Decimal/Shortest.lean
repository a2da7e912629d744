/-!
The shortest decimal that reads back as a given binary number. A number `mantissa * 2 ^ scale` stands
for every real closer to it than to its neighbours; of the decimals with the fewest digits in that
interval, `shortest` gives the nearest one.
-/
namespace ConsoleNav

/-- A decimal number `digits * 10 ^ exponent`. -/
structure Decimal where
  digits : Nat
  exponent : Int

namespace Decimal

/-- A positive binary number with a mantissa of at most 53 bits. -/
structure Binary where
  mantissa : Nat
  scale : Int

namespace Binary

/-- The least mantissa of 53 bits. -/
def leastMantissa : Nat := 4503599627370496

/-- The distance to the lower end of the interval, in quarters of a unit: it is halved where the next
lower number has a smaller scale. -/
def lowerGap (b : Binary) : Nat :=
  if b.mantissa = leastMantissa ∧ -1074 < b.scale then 1 else 2

/-- The factors that bring quarters of a unit and steps of `10 ^ exponent` to a common measure. -/
def measure (b : Binary) (exponent : Int) : Nat × Nat :=
  (Nat.pow 2 (b.scale - 2).toNat * Nat.pow 10 (-exponent).toNat,
    Nat.pow 10 exponent.toNat * Nat.pow 2 (2 - b.scale).toNat)

/-- Whether `d * 10 ^ exponent` reads back as the number. The ends of the interval do so when the
mantissa is even. -/
def holds (b : Binary) (exponent : Int) (d : Nat) : Bool :=
  let (quarter, step) := b.measure exponent
  let low := (4 * b.mantissa - b.lowerGap) * quarter
  let high := (4 * b.mantissa + 2) * quarter
  if b.mantissa % 2 = 0 then low ≤ d * step && d * step ≤ high
  else low < d * step && d * step < high

/-- The better of the two neighbours of the number among the multiples of `10 ^ exponent`, if one
reads back. Of two equally near ones it is the even one. -/
def onGrid (b : Binary) (exponent : Int) : Option Nat :=
  let (quarter, step) := b.measure exponent
  let value := 4 * b.mantissa * quarter
  let d := value / step
  let below := value % step
  let pick := if 2 * below < step ∨ (2 * below = step ∧ d % 2 = 0) then d else d + 1
  let other := if pick = d then d + 1 else d
  if b.holds exponent pick then some pick
  else if b.holds exponent other then some other
  else none

/-- The number of zeros right after the point of `mantissa / power`, counted from `zeros` on. -/
def zerosAfterPoint (mantissa power : Nat) : Nat → Nat → Nat
  | 0, zeros => zeros
  | fuel + 1, zeros =>
    if power ≤ mantissa * Nat.pow 10 (zeros + 1) then zeros
    else zerosAfterPoint mantissa power fuel (zeros + 1)

/-- The least `k` with the number below `10 ^ k`. No number has more than 330 zeros after its point. -/
def places (b : Binary) : Int :=
  let whole := b.mantissa * Nat.pow 2 b.scale.toNat / Nat.pow 2 (-b.scale).toNat
  if whole = 0 then -(zerosAfterPoint b.mantissa (Nat.pow 2 (-b.scale).toNat) 330 0 : Int)
  else (Nat.toDigits 10 whole).length

/-- The first grid, from the one given on, with a multiple that reads back. -/
def searchGrids (b : Binary) : Nat → Int → Decimal
  | 0, exponent => ⟨(b.onGrid exponent).getD 0, exponent⟩
  | fuel + 1, exponent =>
    match b.onGrid exponent with
    | some d => ⟨d, exponent⟩
    | none => searchGrids b fuel (exponent - 1)

/-- The nearest of the shortest decimals that read back as the number. -/
def shortest (b : Binary) : Decimal :=
  searchGrids b 17 (b.places - 1)

end Binary

end Decimal

end ConsoleNav
