import ConsoleNav.Address.NameTable
import ConsoleNav.Address.Ranges

/-!
The directions of names. As soon as a name has a letter or a digit of a script read from right to left,
each of its labels has to keep to one direction.
-/
namespace ConsoleNav.Address

inductive Direction where
  | leftToRight
  | rightToLeft
  | digit
  | arabicDigit
  /-- A mark on the character before it. -/
  | mark
  | neutral
deriving DecidableEq

def marks : Array (Nat × Nat) := rangesOf markText

def spacingMarks : Array (Nat × Nat) := rangesOf spacingText

def rightLetters : Array (Nat × Nat) := rangesOf rightText

def digits : Array (Nat × Nat) := rangesOf digitText

def arabicDigits : Array (Nat × Nat) := rangesOf arabicDigitText

def neutralSigns : Array (Nat × Nat) := rangesOf neutralText

def Direction.of (c : Char) : Direction :=
  if isWithin marks c && !isWithin spacingMarks c then .mark
  else if isWithin rightLetters c then .rightToLeft
  else if isWithin digits c then .digit
  else if isWithin arabicDigits c then .arabicDigit
  else if isWithin neutralSigns c then .neutral
  else .leftToRight

/-- Whether characters stand in a label that is read from left to right, the marks at the end left aside. -/
def isLeftToRight (ds : List Direction) : Bool :=
  ds.all (fun d => d != .rightToLeft && d != .arabicDigit) &&
    ds.getLast?.any fun d => d == .leftToRight || d == .digit

/-- Whether characters stand in a label that is read from right to left, the marks at the end left aside. It
has digits of one kind. -/
def isRightToLeft (ds : List Direction) : Bool :=
  ds.all (· != .leftToRight) && !(ds.contains .digit && ds.contains .arabicDigit) &&
    ds.getLast?.any fun d => d == .rightToLeft || d == .digit || d == .arabicDigit

/-- Whether a label keeps to the direction of its first character, which has to have one. -/
def keepsDirection (label : List Char) : Bool :=
  let ds := (label.map Direction.of).reverse.dropWhile (· == .mark) |>.reverse
  match ds with
  | [] => label.isEmpty
  | .leftToRight :: _ => isLeftToRight ds
  | .rightToLeft :: _ => isRightToLeft ds
  | _ => false

/-- Whether a label has something that is read from right to left. -/
def turnsLeft (label : List Char) : Bool :=
  label.any fun c => Direction.of c == .rightToLeft || Direction.of c == .arabicDigit

/-- Whether the labels of a name keep to their directions, where that counts. -/
def keepDirections (labels : List (List Char)) : Bool :=
  !labels.any turnsLeft || labels.all keepsDirection

end ConsoleNav.Address
