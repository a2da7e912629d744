import ConsoleNav.Text.Percent

/-!
Hosts given by numbers. A number of 32 bits is written in one to four parts, each of them decimal, octal
after a zero or hexadecimal after `0x`. A number of 128 bits is written in hexadecimal pieces between
colons, where two colons stand for the zeros that are left out and the last two pieces may be written as
four decimal parts.
-/
namespace ConsoleNav.Address

/-! ## 32 bits -/

/-- The value of digits in a base, if all of them are digits there. -/
def digitsIn? (base : Nat) (cs : List Char) : Option Nat :=
  cs.foldlM (fun n c => do
    let d ← Text.hexValue? c
    if d < base then some (n * base + d) else none) 0

def partValue? : List Char → Option Nat
  | [] => none
  | '0' :: 'x' :: cs | '0' :: 'X' :: cs => digitsIn? 16 cs
  | '0' :: c :: cs => digitsIn? 8 (c :: cs)
  | cs => digitsIn? 10 cs

/-- The parts of a host between its points. One point at the end does not count. -/
def partsOf (cs : List Char) : List (List Char) :=
  let parts := Text.splitAt '.' cs
  match parts.reverse with
  | [] :: rest@(_ :: _) => rest.reverse
  | _ => parts

/-- Whether the last part of a host is a number, so that the host has to be one. -/
def endsInNumber (cs : List Char) : Bool :=
  match (partsOf cs).getLast? with
  | none => false
  | some part => (!part.isEmpty && part.all Char.isDigit) || (partValue? part).isSome

/-- The number that `before` and `last` make up: one octet for each part but the last one, which has the
octets that are left. -/
def joinParts? (before : List Nat) (last : Nat) : Option Nat :=
  if before.all (· < 256) ∧ last < Nat.pow 256 (4 - before.length) then
    some ((before ++ List.replicate (4 - before.length) 0).foldl (fun n p => n * 256 + p) 0 + last)
  else none

/-- The number of 32 bits that a host stands for. -/
def readV4? (cs : List Char) : Option Nat := do
  let values ← (partsOf cs).mapM partValue?
  match values.reverse with
  | [] => none
  | last :: before => if before.length < 4 then joinParts? before.reverse last else none

def v4Text (n : Nat) : String :=
  ".".intercalate ([n / 16777216, n / 65536 % 256, n / 256 % 256, n % 256].map toString)

/-! ## 128 bits -/

/-- A piece of 16 bits. -/
def pieceValue? (cs : List Char) : Option Nat :=
  if cs.isEmpty || 4 < cs.length then none else digitsIn? 16 cs

/-- An octet in decimal digits, without zeros at its beginning. -/
def octetValue? (cs : List Char) : Option Nat := do
  if cs.isEmpty || (cs.head? == some '0' && 1 < cs.length) then none
  let n ← digitsIn? 10 cs
  if n < 256 then some n else none

def dottedPieces? (cs : List Char) : Option (List Nat) := do
  match ← (Text.splitAt '.' cs).mapM octetValue? with
  | [a, b, c, d] => some [a * 256 + b, c * 256 + d]
  | _ => none

/-- The pieces of one side. Only at the very end of a host may there be decimal parts. -/
def piecesOf? (atEnd : Bool) : List (List Char) → Option (List Nat)
  | [] => some []
  | [part] =>
    if atEnd && part.contains '.' then dottedPieces? part else do some [← pieceValue? part]
  | part :: parts => do
    let piece ← pieceValue? part
    let pieces ← piecesOf? atEnd parts
    some (piece :: pieces)

def sideOf? (atEnd : Bool) (cs : List Char) : Option (List Nat) :=
  if cs.isEmpty then some [] else piecesOf? atEnd (Text.splitAt ':' cs)

/-- What stands before and after the first two colons that follow each other. -/
def splitGap : List Char → Option (List Char × List Char)
  | ':' :: ':' :: cs => some ([], cs)
  | [] => none
  | c :: cs => do
    let (before, after) ← splitGap cs
    some (c :: before, after)

def readV6? (cs : List Char) : Option (List Nat) :=
  match splitGap cs with
  | none => do
    let pieces ← piecesOf? true (Text.splitAt ':' cs)
    if pieces.length = 8 then some pieces else none
  | some (before, after) => do
    let left ← sideOf? false before
    let right ← sideOf? true after
    if left.length + right.length < 8 then
      some (left ++ List.replicate (8 - left.length - right.length) 0 ++ right)
    else none

theorem length_of_readV6? {cs : List Char} {pieces : List Nat} (h : readV6? cs = some pieces) :
    pieces.length = 8 := by
  unfold readV6? at h
  split at h
  · simp only [Option.bind_eq_bind, Option.bind_eq_some_iff] at h
    obtain ⟨ps, -, h⟩ := h
    split at h
    · cases h; assumption
    · cases h
  · simp only [Option.bind_eq_bind, Option.bind_eq_some_iff] at h
    obtain ⟨left, -, right, -, h⟩ := h
    split at h
    · cases h
      simp only [List.length_append, List.length_replicate]
      omega
    · cases h

/-- The length of the run of zeros at the beginning of `pieces`. -/
def zeroRun (pieces : List Nat) : Nat :=
  (pieces.takeWhile (· == 0)).length

/-- Where the longest run of zeros begins, and its length. Of several ones the first counts. -/
def longestZeroRun (pieces : List Nat) : Nat × Nat :=
  (List.range pieces.length).foldl
    (fun best i =>
      let n := zeroRun (pieces.drop i)
      if best.2 < n then (i, n) else best)
    (0, 0)

def pieceText (n : Nat) : String :=
  String.ofList (Nat.toDigits 16 n)

/-- A run of two zeros or more is left out. -/
def v6Text (pieces : List Nat) : String :=
  let (start, length) := longestZeroRun pieces
  let shown (ps : List Nat) : String := ":".intercalate (ps.map pieceText)
  if length < 2 then shown pieces
  else shown (pieces.take start) ++ "::" ++ shown (pieces.drop (start + length))

end ConsoleNav.Address
