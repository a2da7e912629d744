import ConsoleNav.Json.Fault
import ConsoleNav.Json.Value

/-!
Numbers in JSON texts. A number without fraction and exponent that fits into 64 bits is read as the
integer it is. Every other one is a floating point number: its leading digits, as far as they fit into
64 bits, times a power of ten.
-/
namespace ConsoleNav.Json

/-- The greatest value of the leading digits. -/
def significandLimit : Nat := UInt64.size - 1

/-- Digits appended to `significand` as long as they fit, and those left over. -/
def appendDigits (significand : Nat) : List Char → Nat × List Char
  | [] => (significand, [])
  | d :: ds =>
    let next := significand * 10 + (d.toNat - 48)
    if next ≤ significandLimit then appendDigits next ds else (significand, d :: ds)

/-- The number `10 ^ e`, for `e` up to 308. -/
def tenTo (e : Nat) : Float :=
  Float.ofScientific 1 false e

/-- The number `x * 10 ^ exponent`, where divisions by more than `10 ^ 308` are done in several steps. -/
def scale (x : Float) (exponent : Int) : Nat → Except Cause Float
  | 0 => .ok x
  | fuel + 1 =>
    if exponent.natAbs ≤ 308 then
      if 0 ≤ exponent then
        let y := x * tenTo exponent.natAbs
        if y.isInf then .error .numberOutOfRange else .ok y
      else .ok (x / tenTo exponent.natAbs)
    else if x == 0.0 then .ok x
    else if 0 ≤ exponent then .error .numberOutOfRange
    else scale (x / tenTo 308) (exponent + 308) fuel

/-- The floating point number with the given leading digits and power of ten. -/
def floatOf (negative : Bool) (significand : Nat) (exponent : Int) : Except Cause Float := do
  let x ← scale (UInt64.ofNat significand).toFloat exponent 8
  .ok (if negative then -x else x)

/-- The digits of an exponent as a number, unless they exceed 31 bits. -/
def exponentValue (digits : List Char) : Option Nat :=
  let (n, left) := appendDigits 0 digits
  if left.isEmpty ∧ n < 2147483648 then some n else none

/-- A floating point number from the letter of its exponent on, if there is one. -/
def readExponent (negative : Bool) (significand : Nat) (exponent : Int) (cs : List Char) :
    Except Cause (Number × List Char) :=
  match cs with
  | [] => do .ok (.float (← floatOf negative significand exponent), [])
  | c :: after =>
    if c = 'e' ∨ c = 'E' then
      let (down, after) := match after with
        | '+' :: r => (false, r)
        | '-' :: r => (true, r)
        | r => (false, r)
      let digits := after.takeWhile Char.isDigit
      let rest := after.dropWhile Char.isDigit
      if digits.isEmpty then .error (if rest.isEmpty then .endInValue else .badNumber)
      else
        match exponentValue digits with
        | some n => do
          let exponent := if down then exponent - n else exponent + n
          .ok (.float (← floatOf negative significand exponent), rest)
        | none =>
          if significand ≠ 0 ∧ !down then .error .numberOutOfRange
          else .ok (.float (if negative then -0.0 else 0.0), rest)
    else do .ok (.float (← floatOf negative significand exponent), cs)

/-- A number from the end of its whole part on. `left` are the digits of the whole part that did not
fit. -/
def readFraction (negative : Bool) (significand : Nat) (left : List Char) (cs : List Char) :
    Except Cause (Number × List Char) :=
  match cs with
  | '.' :: after =>
    let digits := after.takeWhile Char.isDigit
    let rest := after.dropWhile Char.isDigit
    if digits.isEmpty then .error (if rest.isEmpty then .endInValue else .badNumber)
    else
      let (significand, beyond) := appendDigits significand digits
      readExponent negative significand (left.length - (digits.length - beyond.length : Nat)) rest
  | cs =>
    match cs with
    | 'e' :: _ | 'E' :: _ => readExponent negative significand left.length cs
    | _ =>
      if !left.isEmpty then readExponent negative significand left.length cs
      else if !negative then .ok (.int significand, cs)
      else if significand = 0 ∨ 9223372036854775808 < significand then
        .ok (.float (-(UInt64.ofNat significand).toFloat), cs)
      else .ok (.int (-significand), cs)

def readUnsigned (negative : Bool) (cs : List Char) : Except Cause (Number × List Char) :=
  let digits := cs.takeWhile Char.isDigit
  let rest := cs.dropWhile Char.isDigit
  match digits with
  | [] => .error (if rest.isEmpty then .endInValue else .badNumber)
  | '0' :: _ :: _ => .error .badNumber
  | digits =>
    let (significand, left) := appendDigits 0 digits
    readFraction negative significand left rest

/-- A number, and the rest of the text after it. -/
def readNumber (cs : List Char) : Except Cause (Number × List Char) :=
  match cs with
  | '-' :: rest => readUnsigned true rest
  | cs => readUnsigned false cs

/-- The rest of the text after the exponent of a number that is skipped. -/
def skipExponent (cs : List Char) : Except Cause (List Char) :=
  match cs with
  | [] => .ok []
  | c :: after =>
    if c = 'e' ∨ c = 'E' then
      let after := match after with
        | '+' :: r => r
        | '-' :: r => r
        | r => r
      if (after.takeWhile Char.isDigit).isEmpty then .error .badNumber
      else .ok (after.dropWhile Char.isDigit)
    else .ok cs

/-- The rest of the text after a number that is skipped. Only its form is checked. -/
def skipNumber (cs : List Char) : Except Cause (List Char) :=
  let cs := match cs with
    | '-' :: r => r
    | r => r
  let rest := cs.dropWhile Char.isDigit
  match cs.takeWhile Char.isDigit with
  | [] => .error .badNumber
  | '0' :: _ :: _ => .error .badNumber
  | _ =>
    match rest with
    | '.' :: after =>
      if (after.takeWhile Char.isDigit).isEmpty then .error .badNumber
      else skipExponent (after.dropWhile Char.isDigit)
    | rest => skipExponent rest

def Number.text : Number → List Char
  | .int n => (toString n).toList
  | .float x => (Decimal.floatText x).toList

end ConsoleNav.Json
