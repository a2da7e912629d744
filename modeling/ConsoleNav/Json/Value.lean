import ConsoleNav.Keyed

/-!
JSON values. Members of an object keep the order and the repetitions of the text; `sorted` brings them
into the order of their keys, where the last of several members with one key stays.
-/
namespace ConsoleNav

/-- A JSON number: an integer of at most 64 bits, or a floating point number. -/
inductive Json.Number where
  | int (n : Int)
  | float (x : Float)

inductive Json where
  | null
  | bool (b : Bool)
  | number (n : Json.Number)
  | string (s : String)
  | array (items : List Json)
  | object (members : List (String × Json))

namespace Json

instance : Inhabited Json := ⟨.null⟩

mutual
def sorted : Json → Json
  | .array items => .array (sortedItems items)
  | .object members => .object (Keyed.ofList (sortedValues members))
  | v => v

def sortedItems : List Json → List Json
  | [] => []
  | v :: vs => v.sorted :: sortedItems vs

def sortedValues : List (String × Json) → List (String × Json)
  | [] => []
  | (k, v) :: ms => (k, v.sorted) :: sortedValues ms
end

end Json

end ConsoleNav
