/-!
Octets read as UTF-8. `decodeUtf8?` refuses what is not well formed; `decodeUtf8Lossy` puts the
replacement character in the place of every refused sequence; `looseChars` leaves a gap for every octet that
belongs to no character.
-/
namespace ConsoleNav.Text

/-- The text whose encoding is `bytes`, if there is one. -/
def decodeUtf8? (bytes : List UInt8) : Option String :=
  String.fromUTF8? (ByteArray.mk bytes.toArray)

/-- A character of which some octets are still owed: how many, between which bounds the next one
lies, and the bits seen so far. -/
structure Owed where
  count : Nat
  least : Nat
  greatest : Nat
  bits : Nat

/-- What an octet starts at the beginning of a character: a whole character, one of which more octets
are owed, or none. -/
def startOctet (b : Nat) : Option (Char ⊕ Owed) :=
  if b < 0x80 then some (.inl (Char.ofNat b))
  else if 0xC2 ≤ b ∧ b ≤ 0xDF then some (.inr ⟨1, 0x80, 0xBF, b % 0x20⟩)
  else if b = 0xE0 then some (.inr ⟨2, 0xA0, 0xBF, 0⟩)
  else if b = 0xED then some (.inr ⟨2, 0x80, 0x9F, b % 0x10⟩)
  else if 0xE1 ≤ b ∧ b ≤ 0xEF then some (.inr ⟨2, 0x80, 0xBF, b % 0x10⟩)
  else if b = 0xF0 then some (.inr ⟨3, 0x90, 0xBF, 0⟩)
  else if 0xF1 ≤ b ∧ b ≤ 0xF3 then some (.inr ⟨3, 0x80, 0xBF, b % 8⟩)
  else if b = 0xF4 then some (.inr ⟨3, 0x80, 0x8F, b % 8⟩)
  else none

def replacement : Char := Char.ofNat 0xFFFD

/-- The characters that `b` completes, and what is owed after it, at the beginning of a character. -/
def lossyStart (b : Nat) : List Char × Option Owed :=
  match startOctet b with
  | some (.inl c) => ([c], none)
  | some (.inr o) => ([], some o)
  | none => ([replacement], none)

/-- The characters that `b` completes, and what is owed after it. An octet that the character begun
cannot have replaces that character and is read again as a beginning. -/
def lossyStep (owed : Option Owed) (b : Nat) : List Char × Option Owed :=
  match owed with
  | none => lossyStart b
  | some o =>
    if o.least ≤ b ∧ b ≤ o.greatest then
      let bits := o.bits * 0x40 + b % 0x40
      if o.count ≤ 1 then ([Char.ofNat bits], none)
      else ([], some ⟨o.count - 1, 0x80, 0xBF, bits⟩)
    else
      let (cs, next) := lossyStart b
      (replacement :: cs, next)

/-- The characters of `bytes` after what is owed. -/
def lossyFrom : Option Owed → List UInt8 → List Char
  | none, [] => []
  | some _, [] => [replacement]
  | owed, b :: bytes =>
    let (cs, next) := lossyStep owed b.toNat
    cs ++ lossyFrom next bytes

/-- The text that `bytes` encode, with every refused sequence replaced. -/
def decodeUtf8Lossy (bytes : List UInt8) : String :=
  match decodeUtf8? bytes with
  | some s => s
  | none => String.ofList (lossyFrom none bytes)

/-- The character that octets begin with. -/
def firstChar? (bytes : List UInt8) : Option Char :=
  [1, 2, 3, 4].findSome? fun n => (decodeUtf8? (bytes.take n)).bind fun s => s.toList.head?

/-- The characters of octets after the first `owed` ones, and none for each octet that belongs to no
character. -/
def looseChars : (owed : Nat) → List UInt8 → List (Option Char)
  | _, [] => []
  | owed + 1, _ :: bytes => looseChars owed bytes
  | 0, b :: bytes =>
    match firstChar? (b :: bytes) with
    | some c => some c :: looseChars (c.utf8Size - 1) bytes
    | none => none :: looseChars 0 bytes

def encodeUtf8 (s : String) : List UInt8 :=
  s.toUTF8.data.toList

theorem decodeUtf8?_encodeUtf8 (s : String) : decodeUtf8? (encodeUtf8 s) = some s := by
  have h : (s.toUTF8).IsValidUTF8 := s.isValidUTF8
  simp only [decodeUtf8?, encodeUtf8, Array.toArray_toList]
  exact dif_pos h

theorem decodeUtf8Lossy_encodeUtf8 (s : String) : decodeUtf8Lossy (encodeUtf8 s) = s := by
  simp [decodeUtf8Lossy, decodeUtf8?_encodeUtf8]

end ConsoleNav.Text
