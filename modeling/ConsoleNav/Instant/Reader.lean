import ConsoleNav.Instant.Basic
import ConsoleNav.Text.Blank

/-!
Reading instants. The accepted form is a date, a separator, a time and an offset from universal time;
blanks may stand between the parts, numbers need no leading zeros, and a year with a sign may have any
number of digits.
-/
namespace ConsoleNav.Instant

/-- Why a text is no instant. -/
inductive Refusal where
  | outOfRange
  | impossible
  | badCharacter
  | tooShort
  | tooLong
deriving DecidableEq

def Refusal.message : Refusal → String
  | .outOfRange => "input is out of range"
  | .impossible => "no possible date and time matching input"
  | .badCharacter => "input contains invalid characters"
  | .tooShort => "premature end of input"
  | .tooLong => "trailing input"

abbrev Scan (α : Type) := List Char → Except Refusal (α × List Char)

def dropBlanks (cs : List Char) : List Char :=
  cs.dropWhile Text.isBlank

def digitsValue (digits : List Char) : Nat :=
  digits.foldl (fun n d => n * 10 + (d.toNat - 48)) 0

/-- A number of at least one digit and at most `width` digits, if a width is given. -/
def number (width : Option Nat) : Scan Nat := fun cs =>
  let digits := (match width with
    | some w => cs.take w
    | none => cs).takeWhile Char.isDigit
  if cs.isEmpty then .error .tooShort
  else if digits.isEmpty then .error .badCharacter
  else
    let n := digitsValue digits
    if n < 9223372036854775808 then .ok (n, cs.drop digits.length) else .error .outOfRange

/-- A number after blanks, between two bounds. -/
def field (least greatest : Nat) : Scan Nat := fun cs => do
  let (n, rest) ← number (some 2) (dropBlanks cs)
  if least ≤ n ∧ n ≤ greatest then .ok (n, rest) else .error .outOfRange

def literal (c : Char) (cs : List Char) : Except Refusal (List Char) :=
  match cs with
  | [] => .error .tooShort
  | d :: rest => if d = c then .ok rest else .error .badCharacter

def separator (c : Char) (cs : List Char) : Except Refusal (List Char) :=
  literal c (dropBlanks cs)

/-- A year of up to four digits, or of any number of digits after a sign. -/
def year : Scan Int := fun cs => do
  let (n, rest) ← (match dropBlanks cs with
    | '-' :: rest => do
      let (n, rest) ← number none rest
      .ok (-(n : Int), rest)
    | '+' :: rest => do
      let (n, rest) ← number none rest
      .ok ((n : Int), rest)
    | rest => do
      let (n, rest) ← number (some 4) rest
      .ok ((n : Int), rest) : Except Refusal (Int × List Char))
  if -2147483648 ≤ n ∧ n < 2147483648 then .ok (n, rest) else .error .outOfRange

/-- The nanoseconds after a point, if there is one. Digits after the ninth are passed over. -/
def fraction : Scan Nat := fun cs =>
  match cs with
  | '.' :: rest => do
    let (n, after) ← number (some 9) rest
    .ok (n * Nat.pow 10 (9 - (rest.length - after.length)), after.dropWhile Char.isDigit)
  | cs => .ok (0, cs)

def twoDigits (cs : List Char) : Except Refusal ((Char × Char) × List Char) :=
  match cs with
  | a :: b :: rest => .ok ((a, b), rest)
  | [a] => if a.utf8Size < 2 then .error .tooShort else .error .badCharacter
  | [] => .error .tooShort

/-- The minutes of an offset, after its colon. -/
def offsetMinutes : Scan Nat := fun cs => do
  let ((a, b), rest) ← twoDigits cs
  if a.isDigit ∧ b.isDigit then
    if a ≤ '5' then .ok (digitsValue [a, b], rest) else .error .outOfRange
  else .error .badCharacter

/-- Hours and minutes of an offset, after its sign, in seconds. -/
def offsetSpan : Scan Nat := fun cs => do
  let ((a, b), rest) ← twoDigits cs
  if a.isDigit ∧ b.isDigit then
    let (minutes, rest) ← offsetMinutes (rest.dropWhile fun c => c = ':' ∨ Text.isBlank c)
    .ok (digitsValue [a, b] * 3600 + minutes * 60, rest)
  else .error .badCharacter

/-- An offset from universal time, in seconds to the east. -/
def offset : Scan Int := fun cs =>
  match cs with
  | [] => .error .tooShort
  | c :: rest =>
    if (cs.take 3).map Char.toUpper = ['U', 'T', 'C'] then .ok (0, cs.drop 3)
    else if c = 'z' ∨ c = 'Z' then .ok (0, rest)
    else if c = '+' then do
      let (n, rest) ← offsetSpan rest
      .ok (n, rest)
    else if c = '-' ∨ c = Char.ofNat 0x2212 then do
      let (n, rest) ← offsetSpan rest
      .ok (-(n : Int), rest)
    else .error .badCharacter

def leastYear : Int := -262143

def greatestYear : Int := 262142

/-- The instant at a day and time of day, `east` seconds east of universal time. -/
def ofLocal (d : Day) (hour minute second nanos : Nat) (east : Int) : Except Refusal Instant :=
  if !d.exists? || d.year < leastYear || greatestYear < d.year then .error .outOfRange
  else if east.natAbs ≥ 86400 then .error .outOfRange
  else
    let (second, nanos) := if second = 60 then (59, nanos + 1000000000) else (second, nanos)
    let total := d.toDays * 86400 + (hour * 3600 + minute * 60 + second : Nat) - east
    let days := total.fdiv 86400
    let year := (Day.ofDays days).year
    if year < leastYear || greatestYear < year then .error .impossible
    else .ok ⟨days, (total - days * 86400).toNat, nanos⟩

/-- An instant, read from a whole text. -/
def read (s : String) : Except Refusal Instant := do
  let (y, cs) ← year s.toList
  let cs ← separator '-' cs
  let (month, cs) ← field 1 12 cs
  let cs ← separator '-' cs
  let (day, cs) ← field 1 31 cs
  let cs ← (match cs with
    | [] => .error .tooShort
    | c :: rest => if c = 't' ∨ c = 'T' ∨ c = ' ' then .ok rest else .error .badCharacter)
  let (hour, cs) ← field 0 23 cs
  let cs ← separator ':' cs
  let (minute, cs) ← field 0 59 cs
  let cs ← separator ':' cs
  let (second, cs) ← field 0 60 cs
  let (nanos, cs) ← fraction cs
  let (east, cs) ← offset (dropBlanks cs)
  if (dropBlanks cs).isEmpty then ofLocal ⟨y, month, day⟩ hour minute second nanos east
  else .error .tooLong

end ConsoleNav.Instant
