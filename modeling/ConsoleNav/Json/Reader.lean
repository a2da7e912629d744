import ConsoleNav.Json.Number
import ConsoleNav.Json.Quote

/-!
Readers of JSON texts. A reader takes a value off the front of a text and gives the rest; the first
fault on the way decides. Values of a type are read straight from the text, so that a value of the
wrong type is reported before anything wrong after it.

`size` bounds the number of items of every list and object: the length of the whole text will do. A
reader of lists or objects is given a reader of their parts, or none where no deeper nesting is
allowed.
-/
namespace ConsoleNav.Json

abbrev Reader (α : Type) := List Char → Except Fault (α × List Char)

def isGap (c : Char) : Bool :=
  c == ' ' || c == '\n' || c == '\t' || c == '\x0d'

def skipGap (cs : List Char) : List Char :=
  cs.dropWhile isGap

theorem skipGap_nil : skipGap [] = [] := rfl

theorem skipGap_cons {c : Char} (h : isGap c = false) (cs : List Char) :
    skipGap (c :: cs) = c :: cs := by
  simp [skipGap, List.dropWhile, h]

def here {α : Type} : Except Cause α → Except Fault α
  | .ok a => .ok a
  | .error c => .error ⟨[], c⟩

/-- A reader of a part, whose faults are placed at the step to the part. -/
def located {α : Type} (step : Step) (r : Reader α) : Reader α := fun cs =>
  match r cs with
  | .ok p => .ok p
  | .error f => .error (f.at step)

def word : List Char → List Char → Except Cause (List Char)
  | [], cs => .ok cs
  | _ :: _, [] => .error .endInValue
  | w :: ws, c :: cs => if c = w then word ws cs else .error .expectedWord

/-- The cause for a text whose next value is not of the expected type: that type mismatch, or whatever
is wrong with the value itself. -/
def mismatch (expected : String) (cs : List Char) : Cause :=
  match cs with
  | [] => .endInValue
  | 'n' :: rest =>
    match word ['u', 'l', 'l'] rest with
    | .ok _ => .wrongType .null expected
    | .error e => e
  | 't' :: rest =>
    match word ['r', 'u', 'e'] rest with
    | .ok _ => .wrongType (.bool true) expected
    | .error e => e
  | 'f' :: rest =>
    match word ['a', 'l', 's', 'e'] rest with
    | .ok _ => .wrongType (.bool false) expected
    | .error e => e
  | '"' :: rest =>
    match unquote rest with
    | .ok (s, _) => .wrongType (.string (String.ofList s)) expected
    | .error e => e
  | '[' :: _ => .wrongType .list expected
  | '\x7b' :: _ => .wrongType .object expected
  | c :: _ =>
    if c = '-' ∨ c.isDigit then
      match readNumber cs with
      | .ok (.int n, _) => .wrongType (.int n) expected
      | .ok (.float x, _) => .wrongType (.float x) expected
      | .error e => e
    else .expectedValue

def refuse {α : Type} (expected : String) (cs : List Char) : Except Fault α :=
  .error ⟨[], mismatch expected cs⟩

def readBool : Reader Bool := fun cs =>
  match skipGap cs with
  | 't' :: rest => do .ok (true, ← here (word ['r', 'u', 'e'] rest))
  | 'f' :: rest => do .ok (false, ← here (word ['a', 'l', 's', 'e'] rest))
  | cs => refuse "a boolean" cs

def readNull (expected : String) : Reader Unit := fun cs =>
  match skipGap cs with
  | 'n' :: rest => do .ok ((), ← here (word ['u', 'l', 'l'] rest))
  | cs => refuse expected cs

/-- A string; `expected` names what it stands for. -/
def readStringAs (expected : String) : Reader String := fun cs =>
  match skipGap cs with
  | '"' :: rest => do
    let (s, rest) ← here (unquote rest)
    .ok (String.ofList s, rest)
  | cs => refuse expected cs

def readString : Reader String :=
  readStringAs "a string"

/-- A natural number below `limit`; `name` is the name of that range. -/
def readNat (name : String) (limit : Nat) : Reader Nat := fun cs =>
  match skipGap cs with
  | [] => .error ⟨[], .endInValue⟩
  | c :: rest =>
    if c = '-' ∨ c.isDigit then do
      let (n, rest) ← here (readNumber (c :: rest))
      match n with
      | .float x => .error ⟨[], .wrongType (.float x) name⟩
      | .int n =>
        if 0 ≤ n ∧ n < limit then .ok (n.toNat, rest) else .error ⟨[], .wrongValue (.int n) name⟩
    else refuse name (c :: rest)

/-- A value that may be null. -/
def readOption {α : Type} (r : Reader α) : Reader (Option α) := fun cs =>
  match skipGap cs with
  | 'n' :: rest => do .ok (none, ← here (word ['u', 'l', 'l'] rest))
  | cs => do
    let (a, rest) ← r cs
    .ok (some a, rest)

/-- Where the next item of a list begins, if there is one. -/
def nextItem (first : Bool) (cs : List Char) : Except Cause (Option (List Char)) :=
  match skipGap cs with
  | [] => .error .endInList
  | ']' :: _ => .ok none
  | c :: rest =>
    if first then .ok (some (c :: rest))
    else if c = ',' then
      match skipGap rest with
      | [] => .error .endInValue
      | ']' :: _ => .error .trailingComma
      | rest => .ok (some rest)
    else .error .expectedCommaInList

def closeList (cs : List Char) : Except Cause (List Char) :=
  match skipGap cs with
  | [] => .error .endInList
  | ']' :: rest => .ok rest
  | ',' :: rest =>
    match skipGap rest with
    | ']' :: _ => .error .trailingComma
    | _ => .error .trailingCharacters
  | _ => .error .trailingCharacters

/-- Where the next key of an object begins, after its opening quote, if there is one. -/
def nextKey (first : Bool) (cs : List Char) : Except Cause (Option (List Char)) :=
  match skipGap cs with
  | [] => .error .endInObject
  | '\x7d' :: _ => .ok none
  | c :: rest =>
    if first then if c = '"' then .ok (some rest) else .error .keyNotString
    else if c = ',' then
      match skipGap rest with
      | [] => .error .endInValue
      | '"' :: rest => .ok (some rest)
      | '\x7d' :: _ => .error .trailingComma
      | _ => .error .keyNotString
    else .error .expectedCommaInObject

def closeObject (cs : List Char) : Except Cause (List Char) :=
  match skipGap cs with
  | [] => .error .endInObject
  | '\x7d' :: rest => .ok rest
  | ',' :: _ => .error .trailingComma
  | _ => .error .trailingCharacters

def colon (cs : List Char) : Except Cause (List Char) :=
  match skipGap cs with
  | [] => .error .endInObject
  | ':' :: rest => .ok rest
  | _ => .error .expectedColon

/-- The items of a list, up to its end. -/
def readItems {α : Type} (item : Reader α) : Nat → Nat → Reader (List α)
  | 0, _, _ => .error ⟨[], .endInList⟩
  | size + 1, index, cs => do
    match ← here (nextItem (index == 0) cs) with
    | none => .ok ([], cs)
    | some cs =>
      let (a, cs) ← located (.index index) item cs
      let (as, cs) ← readItems item size (index + 1) cs
      .ok (a :: as, cs)

def readList {α : Type} (size : Nat) (item : Option (Reader α)) : Reader (List α) := fun cs =>
  match skipGap cs with
  | '[' :: rest =>
    match item with
    | none => .error ⟨[], .tooDeep⟩
    | some item => do
      let (as, rest) ← readItems item size 0 rest
      .ok (as, ← here (closeList rest))
  | cs => refuse "a sequence" cs

/-- The value of a member, with the colon before it. Where the colon is missing, the fault lies with the
object and not with the member. -/
def readMember {α : Type} (key : String) (value : Reader α) : Reader α := fun cs => do
  located (.key key) value (← here (colon cs))

/-- The members of an object, up to its end, each one taken into an accumulated value. -/
def readMembers {σ : Type} (member : String → σ → Reader σ) : Nat → Bool → σ → Reader σ
  | 0, _, _, _ => .error ⟨[], .endInObject⟩
  | size + 1, first, s, cs => do
    match nextKey first cs with
    | .error e => .error ⟨[.unknown], e⟩
    | .ok none => .ok (s, cs)
    | .ok (some cs) =>
      match unquote cs with
      | .error e => .error ⟨[.unknown], e⟩
      | .ok (key, cs) =>
        let (s, cs) ← member (String.ofList key) s cs
        readMembers member size false s cs

/-- Any value, given a reader of the values within it. -/
def readAny (size : Nat) (inner : Option (Reader Json)) : Reader Json := fun cs =>
  match skipGap cs with
  | [] => .error ⟨[], .endInValue⟩
  | 'n' :: rest => do .ok (.null, ← here (word ['u', 'l', 'l'] rest))
  | 't' :: rest => do .ok (.bool true, ← here (word ['r', 'u', 'e'] rest))
  | 'f' :: rest => do .ok (.bool false, ← here (word ['a', 'l', 's', 'e'] rest))
  | '"' :: rest => do
    let (s, rest) ← here (unquote rest)
    .ok (.string (String.ofList s), rest)
  | '[' :: rest =>
    match inner with
    | none => .error ⟨[], .tooDeep⟩
    | some value => do
      let (items, rest) ← readItems value size 0 rest
      .ok (.array items, ← here (closeList rest))
  | '\x7b' :: rest =>
    match inner with
    | none => .error ⟨[], .tooDeep⟩
    | some value => do
      let member (key : String) (ms : List (String × Json)) : Reader (List (String × Json)) :=
        fun cs => do
          let (v, cs) ← readMember key value cs
          .ok ((key, v) :: ms, cs)
      let (members, rest) ← readMembers member size true [] rest
      .ok (.object members.reverse, ← here (closeObject rest))
  | c :: rest =>
    if c = '-' ∨ c.isDigit then do
      let (n, rest) ← here (readNumber (c :: rest))
      .ok (.number n, rest)
    else .error ⟨[], .expectedValue⟩

/-- Any value nested at most `depth` deep. -/
def readValue (size : Nat) : Nat → Reader Json
  | 0 => readAny size none
  | depth + 1 => readAny size (some (readValue size depth))

/-- How deep values may be nested. -/
def depthLimit : Nat := 127

/-- A reader of a whole text: after the value only blanks may follow. -/
def readWhole {α : Type} (r : Nat → Nat → Reader α) (text : String) : Except Fault α := do
  let cs := text.toList
  let (a, rest) ← r cs.length depthLimit cs
  if (skipGap rest).isEmpty then .ok a else .error ⟨[], .trailingCharacters⟩

end ConsoleNav.Json
