import ConsoleNav.Json.Skip

/-!
Readers of records. A record is read from an object, whose unknown members are skipped, or from the
list of its fields in their order.
-/
namespace ConsoleNav.Json

inductive Need where
  /-- In objects and in lists. -/
  | always
  /-- In lists only. -/
  | inLists
  | never
deriving DecidableEq

/-- A field of a record: its name, whether it has to be given, and how its value is read into the
record. -/
structure Field (α : Type) where
  name : String
  need : Need
  read : α → Reader α

/-- A field read with `r` and stored with `store`. -/
def Field.of {α β : Type} (name : String) (need : Need) (r : Reader β) (store : β → α → α) : Field α :=
  ⟨name, need, fun a cs => do
    let (b, cs) ← r cs
    .ok (store b a, cs)⟩

/-- The shape of a record: the record before any field is given, and its fields. -/
structure Shape (α : Type) where
  blank : α
  fields : List (Field α)

def elementCount (n : Nat) : String :=
  toString n ++ (if n = 1 then " element" else " elements")

/-- One member of the object of a record. `given` are the names of the fields given so far. -/
def Shape.readMember {α : Type} (shape : Shape α) (size : Nat) (key : String)
    (s : List String × α) : Reader (List String × α) := fun cs =>
  match shape.fields.find? fun f => f.name == key with
  | none => Json.readMember key (fun cs => do .ok (s, ← here (skipValue size cs))) cs
  | some f =>
    if s.1.contains key then .error ⟨[], .repeatedField key⟩
    else do
      let (a, cs) ← Json.readMember key (f.read s.2) cs
      .ok ((key :: s.1, a), cs)

/-- The first field that an object has to give and does not. -/
def Shape.missing? {α : Type} (shape : Shape α) (given : List String) : Option String :=
  (shape.fields.find? fun f => f.need == .always && !given.contains f.name).map Field.name

/-- The fields of a record from the items of a list, the first of them at `index`. -/
def readFields {α : Type} (expected : String) : List (Field α) → Nat → α → Reader α
  | [], _, a, cs => .ok (a, cs)
  | f :: fields, index, a, cs => do
    match ← here (nextItem (index == 0) cs) with
    | some cs =>
      let (a, cs) ← located (.index index) (f.read a) cs
      readFields expected fields (index + 1) a cs
    | none =>
      if f.need = .never then readFields expected fields index a cs
      else .error ⟨[], .wrongLength index expected⟩

/-- A record of the type `name`, if the nesting allows for one. -/
def readRecord {α : Type} (size : Nat) (name : String) (shape : Option (Shape α)) : Reader α := fun cs =>
  match skipGap cs with
  | '[' :: rest =>
    match shape with
    | none => .error ⟨[], .tooDeep⟩
    | some shape => do
      let expected := name ++ " with " ++ elementCount shape.fields.length
      let (a, rest) ← readFields expected shape.fields 0 shape.blank rest
      .ok (a, ← here (closeList rest))
  | '\x7b' :: rest =>
    match shape with
    | none => .error ⟨[], .tooDeep⟩
    | some shape => do
      let ((given, a), rest) ← readMembers (shape.readMember size) size true ([], shape.blank) rest
      match shape.missing? given with
      | some field => .error ⟨[], .missingField field⟩
      | none => .ok (a, ← here (closeObject rest))
  | cs => refuse name cs

/-- A record without records of its own type within it. -/
def readFlatRecord {α : Type} (size depth : Nat) (name : String) (shape : Shape α) : Reader α :=
  readRecord size name (if depth = 0 then none else some shape)

/-- The key of the object that stands for a variant, which has to have one. -/
def variantKey (cs : List Char) : Except Cause (String × List Char) :=
  match skipGap cs with
  | [] => .error .endInObject
  | '\x7d' :: _ => .error .expectedValue
  | '"' :: rest => do
    let (s, rest) ← unquote rest
    .ok (String.ofList s, rest)
  | _ => .error .keyNotString

/-- One of several names, alone or as the key of an object whose value is null. -/
def readVariant {α : Type} (depth : Nat) (variants : List (String × α)) : Reader α := fun cs =>
  let find (s : String) : Except Cause α :=
    match variants.find? fun v => v.1 == s with
    | some v => .ok v.2
    | none => .error (.unknownVariant s (variants.map Prod.fst))
  match skipGap cs with
  | [] => .error ⟨[], .endInValue⟩
  | '"' :: rest => do
    let (s, rest) ← here (unquote rest)
    .ok (← here (find (String.ofList s)), rest)
  | '\x7b' :: rest =>
    if depth = 0 then .error ⟨[], .tooDeep⟩
    else do
      let (s, rest) ← here (variantKey rest)
      let a ← here (find s)
      let ((), rest) ← readNull "unit" (← here (colon rest))
      match skipGap rest with
      | [] => .error ⟨[], .endInObject⟩
      | '\x7d' :: rest => .ok (a, rest)
      | _ => .error ⟨[], .expectedValue⟩
  | _ => .error ⟨[], .expectedValue⟩

end ConsoleNav.Json
