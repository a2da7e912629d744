import ConsoleNav.Json.Printer
import ConsoleNav.Json.Tagged

/-!
Types with a JSON form: how values are written, and how they are read given the size of the text and
the depth of nesting that is left.
-/
namespace ConsoleNav.Json

class Wire (α : Type) where
  toJson : α → Json
  reader : Nat → Nat → Reader α

namespace Wire

variable {α : Type} [Wire α]

/-- The reader of the parts of a value, where the nesting allows for parts. -/
def inner (r : Nat → Reader α) : Nat → Option (Reader α)
  | 0 => none
  | depth + 1 => some (r depth)

instance : Wire (List α) where
  toJson as := .array (as.map toJson)
  reader size depth := readList size (inner (reader size) depth)

instance : Wire String where
  toJson := .string
  reader _ _ := readString

def encode (a : α) : String :=
  (toJson a).compact

def encodePretty (a : α) : String :=
  (toJson a).pretty

def decode (text : String) : Except Fault α :=
  readWhole reader text

end Wire

end ConsoleNav.Json
