import ConsoleNav.Address.Direction
import ConsoleNav.Address.Punycode

/-!
Host names, as the program's own client takes them. A name is prepared by replacing characters that mean the
same by one of them, small letters for capital ones among them, and its labels beyond ASCII are then written
in ASCII. This client is a plain one: it does not compose characters, so composed ones have to come composed,
and takes joiners only after the signs that make letters join.
-/
namespace ConsoleNav.Address

/-! ## Tables -/

/-- A replacement of `count` characters from `first` on, `step` apart. Their replacements are successive
ones if it is `moving`. -/
structure Replacement where
  first : Nat
  step : Nat
  count : Nat
  moving : Bool
  targets : List Nat

def Replacement.ofEntry (entry : List Char) : Replacement :=
  let left := entry.takeWhile (· != ':')
  let targets := (Text.splitAt ',' ((entry.dropWhile (· != ':')).drop 1)).map hexOf
  let isHex (c : Char) : Bool := (Text.hexValue? c).isSome
  let first := hexOf (left.takeWhile isHex)
  match left.dropWhile isHex with
  | '+' :: count => ⟨first, 1, hexOf count, true, targets⟩
  | '*' :: count => ⟨first, 2, hexOf count, true, targets⟩
  | '=' :: count => ⟨first, 1, hexOf count, false, targets⟩
  | _ => ⟨first, 1, 1, false, targets⟩

/-- What a character is replaced by, if the replacement is one for it. -/
def Replacement.apply? (r : Replacement) (c : Char) : Option (List Char) :=
  let n := c.toNat
  if r.first ≤ n ∧ n < r.first + r.step * r.count ∧ (n - r.first) % r.step = 0 then
    some (r.targets.map fun t => Char.ofNat (if r.moving then t + (n - r.first) else t))
  else none

def replacements : Array Replacement :=
  ((entriesOf replacementText).map Replacement.ofEntry).toArray

def omitted : Array (Nat × Nat) := rangesOf omittedText

def refused : Array (Nat × Nat) := rangesOf refusedText

def viramas : Array (Nat × Nat) := rangesOf viramaText

/-! ## Names -/

/-- The ASCII characters that no host name has, since addresses use them otherwise. -/
def isReserved (c : Char) : Bool :=
  c.toNat ≤ 0x20 || c.toNat == 0x7F || "#/:<>?@[\\]^|%".toList.contains c

def isJoiner (c : Char) : Bool :=
  c.toNat == 0x200C || c.toNat == 0x200D

/-- A character as prepared names have it; none if no name has it. -/
def prepareChar? (c : Char) : Option (List Char) :=
  if isWithin omitted c then some []
  else if isWithin refused c then none
  else
    match replacements.findSome? fun r => r.apply? c with
    | some cs => some cs
    | none => some [c]

def prepare? (cs : List Char) : Option (List Char) := do
  let parts ← cs.mapM prepareChar?
  if parts.flatten.any isReserved then none else some parts.flatten

/-- Whether every joiner comes after a sign that makes letters join. -/
def joinersFit : Option Char → List Char → Bool
  | _, [] => true
  | before, c :: cs =>
    (!isJoiner c || before.any (isWithin viramas)) && joinersFit (some c) cs

/-- Whether a label may stand in a name. -/
def isLabel (label : List Char) : Bool :=
  !(label.head?.any (isWithin marks)) && joinersFit none label

/-- Whether a label is as preparing leaves it. -/
def isPrepared (label : List Char) : Bool :=
  prepare? label == some label && !label.contains '.'

/-- A label of a prepared name as it is read. One that is written in ASCII already has to stand for a label
beyond ASCII. -/
def plainLabel? (label : List Char) : Option (List Char) :=
  match label with
  | 'x' :: 'n' :: '-' :: '-' :: written => do
    let plain ← Punycode.decode? written
    if !plain.all Punycode.isAscii && isPrepared plain then some plain else none
  | _ => some label

def asciiLabel (label : List Char) : List Char :=
  if label.all Punycode.isAscii then label else "xn--".toList ++ Punycode.encode label

/-- A host name in ASCII. It may have escapes. -/
def nameToAscii? (cs : List Char) : Option (List Char) := do
  let text ← Text.decodeUtf8? (Text.percentOctets cs)
  let labels ← (Text.splitAt '.' (← prepare? text.toList)).mapM plainLabel?
  if labels.all isLabel && keepDirections labels then
    some (['.'].intercalate (labels.map asciiLabel))
  else none

end ConsoleNav.Address
