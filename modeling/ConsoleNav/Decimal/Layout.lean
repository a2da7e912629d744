import ConsoleNav.Decimal.Shortest

/-!
How a binary floating point number is written: the shortest decimal that reads back, laid out
positionally or with an exponent.
-/
namespace ConsoleNav.Decimal

/-- Numbers whose leading digit stands for `10 ^ least` to `10 ^ greatest` are positional. -/
structure Layout where
  least : Int
  greatest : Int

/-- Positional from `10 ^ -5` on and below `10 ^ 16`. -/
def layout : Layout := ⟨-5, 15⟩

/-- Digits without zeros at the end, and how many were dropped. -/
def dropZeros (digits : List Char) : List Char × Nat :=
  let kept := (digits.reverse.dropWhile (· == '0')).reverse
  (kept, digits.length - kept.length)

/-- Digits laid out as a number whose point stands after `places` of them. A point always appears. -/
def positional (digits : List Char) (places : Int) : List Char :=
  if places ≤ 0 then '0' :: '.' :: (List.replicate (-places).toNat '0' ++ digits)
  else
    let whole := digits.take places.toNat
    let rest := digits.drop places.toNat
    whole ++ List.replicate (places.toNat - whole.length) '0' ++ '.' ::
      (if rest.isEmpty then ['0'] else rest)

/-- Digits laid out with one place before the point and an exponent with its sign. -/
def exponential (digits : List Char) (leading : Int) : List Char :=
  let point := match digits.drop 1 with
    | [] => []
    | rest => '.' :: rest
  let power := if leading < 0 then '-' :: Nat.toDigits 10 leading.natAbs
    else '+' :: Nat.toDigits 10 leading.natAbs
  digits.take 1 ++ point ++ 'e' :: power

def Layout.write (l : Layout) (d : Decimal) : List Char :=
  let (digits, dropped) := dropZeros (Nat.toDigits 10 d.digits)
  let leading := d.exponent + dropped + digits.length - 1
  if l.least ≤ leading ∧ leading ≤ l.greatest then positional digits (leading + 1)
  else exponential digits leading

/-- The mantissa and the scale in the bits of a finite number. -/
def binaryOfBits (bits : UInt64) : Binary :=
  let exponent : Nat := bits.toNat / Binary.leastMantissa % 2048
  let fraction : Nat := bits.toNat % Binary.leastMantissa
  if exponent = 0 then ⟨fraction, -1074⟩ else ⟨fraction + Binary.leastMantissa, (exponent : Int) - 1075⟩

/-- A finite number. Zero keeps its sign. -/
def floatText (x : Float) : String :=
  let bits := x.toBits
  let sign := if bits.toNat / 9223372036854775808 = 1 then ['-'] else []
  let b := binaryOfBits bits
  String.ofList (sign ++ if b.mantissa = 0 then ['0', '.', '0'] else layout.write b.shortest)

end ConsoleNav.Decimal
