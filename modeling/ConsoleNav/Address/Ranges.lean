import ConsoleNav.Text.Percent

/-!
Sets of characters given by tables, whose entries are numbers in hexadecimal and ranges of them.
-/
namespace ConsoleNav.Address

/-- The value of hexadecimal digits. -/
def hexOf (cs : List Char) : Nat :=
  cs.foldl (fun n c => n * 16 + (Text.hexValue? c).getD 0) 0

def entriesOf (table : String) : List (List Char) :=
  (Text.splitAt ' ' (table.toList.map fun c => if c = '\n' then ' ' else c)).filter (!·.isEmpty)

def rangeOf (entry : List Char) : Nat × Nat :=
  match Text.splitAt '-' entry with
  | [first, last] => (hexOf first, hexOf last)
  | _ => (hexOf entry, hexOf entry)

def rangesOf (table : String) : Array (Nat × Nat) :=
  ((entriesOf table).map rangeOf).toArray

def isWithin (ranges : Array (Nat × Nat)) (c : Char) : Bool :=
  ranges.any fun r => r.1 ≤ c.toNat && c.toNat ≤ r.2

end ConsoleNav.Address
