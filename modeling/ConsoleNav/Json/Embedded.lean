import ConsoleNav.Json.Tagged

/-!
Texts within values. An object that begins with a certain key stands for the value whose text it has
under that key: wherever a value of no type in particular is made, that value takes the place of the
object. In the text that an object stands for, there may be such objects again.
-/
namespace ConsoleNav.Json

/-- The key of the text that an object stands for. -/
def embedKey : String := "$serde_json::private::RawValue"

/-- What stands under the first key of an object, if the object stands for a text. -/
def embedded? : List (String × Json) → Option Json
  | (key, v) :: _ => if key = embedKey then some v else none
  | [] => none

def takeText : Json → Except Cause String
  | .string text => .ok text
  | v => .error (.wrongType v.found "raw value")

mutual
/-- A value with what `read` makes of a text in the place of each object that stands for one. -/
def expand (read : String → Except Cause Json) : Json → Except Cause Json
  | .array items => do .ok (.array (← expandItems read items))
  | .object members =>
    match embedded? members with
    | some v => do
      let v ← read (← takeText v)
      if members.length = 1 then .ok v else .error (.wrongLength members.length "1 element in map")
    | none => do .ok (.object (← expandMembers read members))
  | v => .ok v

def expandItems (read : String → Except Cause Json) : List Json → Except Cause (List Json)
  | [] => .ok []
  | v :: vs => do
    let v ← expand read v
    .ok (v :: (← expandItems read vs))

def expandMembers (read : String → Except Cause Json) :
    List (String × Json) → Except Cause (List (String × Json))
  | [] => .ok []
  | (key, v) :: ms => do
    let v ← expand read v
    .ok ((key, v) :: (← expandMembers read ms))
end

/-- The text that the object after its opening brace stands for, and the rest, if it stands for one. -/
def readText? (rest : List Char) : Option (Except Fault (String × List Char)) :=
  match nextKey true rest with
  | .ok (some cs) =>
    match unquote cs with
    | .ok (key, cs) =>
      if String.ofList key = embedKey then some (readMember embedKey (readStringAs "raw value") cs) else none
    | .error _ => none
  | _ => none

/-- Any value, expanded as it is read, given a reader of the values within it. -/
def readExpandedAny (read : String → Except Cause Json) (size : Nat) (inner : Option (Reader Json)) :
    Reader Json := fun cs =>
  match skipGap cs, inner with
  | '\x7b' :: rest, some _ =>
    match readText? rest with
    | some text => do
      let (text, rest) ← text
      let v ← here (read text)
      .ok (v, ← here (closeObject rest))
    | none => readAny size inner cs
  | _, _ => readAny size inner cs

/-- Any value nested at most `depth` deep, expanded as it is read. -/
def readExpanded (read : String → Except Cause Json) (size : Nat) : Nat → Reader Json
  | 0 => readExpandedAny read size none
  | depth + 1 => readExpandedAny read size (some (readExpanded read size depth))

/-- The value that a text stands for. `levels` bounds how often texts stand in one another: the length of
the text will do, since each of them is shorter than the one that it stands in. -/
def readEmbedded : Nat → String → Except Cause Json
  | 0, _ => .error .tooDeep
  | levels + 1, text =>
    match readWhole (readExpanded (readEmbedded levels)) text with
    | .ok v => .ok v
    | .error f => .error (.refused f.cause.message)

end ConsoleNav.Json
