import ConsoleNav.Json.Record

/-!
Readers of objects of which one member is known beforehand and the others are read as plain values, such as
tagged records. The member `kind`, at any place, or the first item of a list, names the
variant; all else is read as plain values first and then taken apart as the fields of that variant.
-/
namespace ConsoleNav.Json

def found : Json → Found
  | .null => .null
  | .bool b => .bool b
  | .number (.int n) => .int n
  | .number (.float x) => .float x
  | .string s => .string s
  | .array _ => .list
  | .object _ => .object

inductive Body where
  | members (ms : List (String × Json))
  | items (vs : List Json)

/-- One member of an object: the one called `mark`, which may stand there once, or any other one. -/
def readMarkedMember {τ : Type} (mark : String) (r : Reader τ) (value : Reader Json) (key : String)
    (s : Option τ × List (String × Json)) : Reader (Option τ × List (String × Json)) := fun cs =>
  if key = mark then
    match s.1 with
    | some _ => .error ⟨[], .repeatedField mark⟩
    | none => do
      let (t, cs) ← readMember key r cs
      .ok ((some t, s.2), cs)
  else do
    let (v, cs) ← readMember key value cs
    .ok ((s.1, (key, v) :: s.2), cs)

/-- The tag and the body of a tagged record, if the nesting allows for one. -/
def readTagged {τ : Type} (size : Nat) (name : String) (tag : Reader τ)
    (inner : Option (Reader Json)) : Reader (τ × Body) := fun cs =>
  match skipGap cs with
  | '[' :: rest =>
    match inner with
    | none => .error ⟨[], .tooDeep⟩
    | some value => do
      match ← here (nextItem true rest) with
      | none => .error ⟨[], .missingField "kind"⟩
      | some rest =>
        let (t, rest) ← located (.index 0) tag rest
        let (vs, rest) ← readItems value size 1 rest
        .ok ((t, .items vs), ← here (closeList rest))
  | '\x7b' :: rest =>
    match inner with
    | none => .error ⟨[], .tooDeep⟩
    | some value => do
      let ((t, ms), rest) ← readMembers (readMarkedMember "kind" tag value) size true (none, []) rest
      match t with
      | none => .error ⟨[], .missingField "kind"⟩
      | some t => .ok ((t, .members ms.reverse), ← here (closeObject rest))
  | cs => refuse name cs

def readTag {τ : Type} (variants : List (String × τ)) : Reader τ := fun cs => do
  let (s, rest) ← readStringAs "variant identifier" cs
  match variants.find? fun v => v.1 == s with
  | some v => .ok (v.2, rest)
  | none => .error ⟨[], .unknownVariant s (variants.map Prod.fst)⟩

/-- A field of a variant: its name, whether it has to be given, and how its value is taken into the
record. -/
structure Part (α : Type) where
  name : String
  need : Need
  take : α → Json → Except Cause α

def takeString (v : Json) : Except Cause String :=
  match v with
  | .string s => .ok s
  | v => .error (.wrongType v.found "a string")

def takeOption {α : Type} (take : Json → Except Cause α) : Json → Except Cause (Option α)
  | .null => .ok none
  | v => do .ok (some (← take v))

def takeNat (name : String) (limit : Nat) : Json → Except Cause Nat
  | .number (.int n) =>
    if 0 ≤ n ∧ n < limit then .ok n.toNat else .error (.wrongValue (.int n) name)
  | v => .error (.wrongType v.found name)

/-- The parts given by the members of an object. `given` are the names of the parts given so far. -/
def takeMembers {α : Type} (parts : List (Part α)) :
    List (String × Json) → List String → α → Except Cause (List String × α)
  | [], given, a => .ok (given, a)
  | (key, v) :: ms, given, a =>
    match parts.find? fun p => p.name == key with
    | none => takeMembers parts ms given a
    | some p =>
      if given.contains key then .error (.repeatedField key)
      else do takeMembers parts ms (key :: given) (← p.take a v)

/-- The parts given by the items of a list, and the items left over. -/
def takeItems {α : Type} (expected : String) :
    List (Part α) → Nat → List Json → α → Except Cause (List Json × α)
  | [], _, vs, a => .ok (vs, a)
  | p :: parts, index, [], a =>
    if p.need = .never then takeItems expected parts index [] a
    else .error (.wrongLength index expected)
  | p :: parts, index, v :: vs, a => do takeItems expected parts (index + 1) vs (← p.take a v)

/-- The variant `name` with the parts of a body. -/
def Body.take {α : Type} (name : String) (blank : α) (parts : List (Part α)) : Body → Except Cause α
  | .members ms => do
    let (given, a) ← takeMembers parts ms [] blank
    match parts.find? fun p => p.need == .always && !given.contains p.name with
    | some p => .error (.missingField p.name)
    | none => .ok a
  | .items vs => do
    let expected := name ++ " with " ++ elementCount parts.length
    let (left, a) ← takeItems expected parts 0 vs blank
    if left.isEmpty then .ok a
    else .error (.wrongLength vs.length (elementCount (vs.length - left.length) ++ " in sequence"))

end ConsoleNav.Json
