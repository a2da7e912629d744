import ConsoleNav.Text.Split

/-!
Labels of host names beyond ASCII, written with the letters, digits and the hyphen of ASCII: first the
ASCII characters and a hyphen, then where each other character goes, as the number of steps that a walk
through all insertions takes up to it. The numbers have a mixed base that follows their size.
-/
namespace ConsoleNav.Address.Punycode

/-- The digits: the letters, then the decimal digits. -/
def digitChar (d : Nat) : Char :=
  if d < 26 then Char.ofNat (97 + d) else Char.ofNat (22 + d)

def digitValue? (c : Char) : Option Nat :=
  if 'a' ≤ c ∧ c ≤ 'z' then some (c.toNat - 97)
  else if 'A' ≤ c ∧ c ≤ 'Z' then some (c.toNat - 65)
  else if '0' ≤ c ∧ c ≤ '9' then some (c.toNat - 22)
  else none

/-- Digits below the threshold end a number. `k` grows by the base from one digit to the next. -/
def threshold (k bias : Nat) : Nat :=
  if k ≤ bias then 1 else if bias + 26 ≤ k then 26 else k - bias

theorem threshold_pos (k bias : Nat) : 1 ≤ threshold k bias := by
  unfold threshold
  split
  · omega
  · split <;> omega

theorem threshold_le (k bias : Nat) : threshold k bias ≤ 26 := by
  unfold threshold
  split
  · omega
  · split <;> omega

def shrink (delta k : Nat) : Nat × Nat :=
  if 455 < delta then shrink (delta / 35) (k + 36) else (delta, k)
termination_by delta
decreasing_by exact Nat.div_lt_self (by omega) (by omega)

/-- The bias after a number, of which `points` insertions have been made so far. -/
def adapt (delta points : Nat) (isFirst : Bool) : Nat :=
  let delta := if isFirst then delta / 700 else delta / 2
  let (delta, k) := shrink (delta + delta / points) 0
  k + 36 * delta / (delta + 38)

/-! ## Writing -/

/-- A number, least digit first. -/
def numberDigits (bias k n : Nat) : List Char :=
  let t := threshold k bias
  if n < t then [digitChar n]
  else digitChar (t + (n - t) % (36 - t)) :: numberDigits bias (k + 36) ((n - t) / (36 - t))
termination_by n
decreasing_by
  have h := threshold_pos k bias
  have : (n - threshold k bias) / (36 - threshold k bias) ≤ n - threshold k bias := Nat.div_le_self _ _
  omega

/-- The state of writing: the steps since the last insertion, the bias, and the insertions made. -/
structure Writing where
  delta : Nat
  bias : Nat
  made : Nat

/-- Pass over one character of the label while the characters with the value `value` are inserted. -/
def writeStep (basic value : Nat) (w : Writing) (c : Char) : List Char × Writing :=
  if c.toNat < value then ([], { w with delta := w.delta + 1 })
  else if c.toNat = value then
    (numberDigits w.bias 36 w.delta,
      ⟨0, adapt w.delta (w.made + 1) (w.made == basic), w.made + 1⟩)
  else ([], w)

def writePass (basic value : Nat) : List Char → Writing → List Char × Writing
  | [], w => ([], w)
  | c :: cs, w =>
    let (digits, w) := writeStep basic value w c
    let (rest, w) := writePass basic value cs w
    (digits ++ rest, w)

/-- Insert the characters with the given values, in increasing order, where `next` is the least value not
yet passed. -/
def writeValues (label : List Char) (basic : Nat) : List Nat → Nat → Writing → List Char
  | [], _, _ => []
  | value :: values, next, w =>
    let w := { w with delta := w.delta + (value - next) * (w.made + 1) }
    let (digits, w) := writePass basic value label w
    digits ++ writeValues label basic values (value + 1) { w with delta := w.delta + 1 }

def isAscii (c : Char) : Bool :=
  c.toNat < 0x80

def encode (label : List Char) : List Char :=
  let basic := label.filter isAscii
  let values := ((label.filter fun c => !isAscii c).map Char.toNat).mergeSort.eraseDups
  basic ++ (if basic.isEmpty then [] else ['-']) ++
    writeValues label basic.length values 0x80 ⟨0, 72, basic.length⟩

/-! ## Reading -/

/-- A number added to `sum`, and what follows it. -/
def readNumber? (bias : Nat) : List Char → (k weight sum : Nat) → Option (Nat × List Char)
  | [], _, _, _ => none
  | c :: cs, k, weight, sum => do
    let d ← digitValue? c
    let t := threshold k bias
    if d < t then some (sum + d * weight, cs)
    else readNumber? bias cs (k + 36) (weight * (36 - t)) (sum + d * weight)

theorem length_of_readNumber? {bias : Nat} {cs rest : List Char} {k weight sum n : Nat}
    (h : readNumber? bias cs k weight sum = some (n, rest)) : rest.length < cs.length := by
  induction cs generalizing k weight sum with
  | nil => simp [readNumber?] at h
  | cons c cs ih =>
    simp only [readNumber?, Option.bind_eq_bind, Option.bind_eq_some_iff] at h
    obtain ⟨d, -, h⟩ := h
    split at h
    · cases h; simp
    · have := ih h
      simp only [List.length_cons]
      omega

/-- Insert characters into `label` as the numbers say. `value` and `place` are where the walk stands. -/
def insert? (bias value place : Nat) (label : List Char) (cs : List Char) : Option (List Char) :=
  if cs.isEmpty then some label
  else
    match h : readNumber? bias cs 36 1 place with
    | none => none
    | some (sum, rest) =>
      have : rest.length < cs.length := length_of_readNumber? h
      let points := label.length + 1
      let next := value + sum / points
      if next < 0xD800 ∨ (0xDFFF < next ∧ next < 0x110000) then
        insert? (adapt (sum - place) points (place == 0)) next (sum % points + 1)
          (label.insertIdx (sum % points) (Char.ofNat next)) rest
      else none
termination_by cs.length

/-- The label that is written as `cs`. Where the only hyphen is at the beginning, it parts nothing. -/
def decode? (cs : List Char) : Option (List Char) :=
  let tail := (cs.reverse.takeWhile (· != '-')).reverse
  let basic := cs.take (cs.length - tail.length - 1)
  if basic.isEmpty && cs.contains '-' then none
  else if basic.all isAscii then insert? 72 0x80 0 basic tail
  else none

end ConsoleNav.Address.Punycode
