import ConsoleNav.Json.Number
import ConsoleNav.Json.Quote

/-!
JSON texts of values: `compact` without blanks, `pretty` with a line for every item and member, indented
by two spaces for each level.
-/
namespace ConsoleNav.Json

mutual
/-- The text of a value without blanks. -/
def print : Json → List Char
  | .null => ['n', 'u', 'l', 'l']
  | .bool true => ['t', 'r', 'u', 'e']
  | .bool false => ['f', 'a', 'l', 's', 'e']
  | .number n => n.text
  | .string s => quote s
  | .array [] => ['[', ']']
  | .array (v :: vs) => '[' :: v.print ++ printItems vs
  | .object [] => ['\x7b', '\x7d']
  | .object ((k, v) :: ms) => '\x7b' :: quote k ++ ':' :: v.print ++ printMembers ms

/-- The items after the first one, and the end of the list. -/
def printItems : List Json → List Char
  | [] => [']']
  | v :: vs => ',' :: v.print ++ printItems vs

/-- The members after the first one, and the end of the object. -/
def printMembers : List (String × Json) → List Char
  | [] => ['\x7d']
  | (k, v) :: ms => ',' :: quote k ++ ':' :: v.print ++ printMembers ms
end

def newline (level : Nat) : List Char :=
  '\n' :: List.replicate (2 * level) ' '

mutual
/-- The text of a value in lines, the first of which is begun at `level`. -/
def layOut (level : Nat) : Json → List Char
  | .null => ['n', 'u', 'l', 'l']
  | .bool true => ['t', 'r', 'u', 'e']
  | .bool false => ['f', 'a', 'l', 's', 'e']
  | .number n => n.text
  | .string s => quote s
  | .array [] => ['[', ']']
  | .array (v :: vs) => '[' :: newline (level + 1) ++ v.layOut (level + 1) ++ layOutItems level vs
  | .object [] => ['\x7b', '\x7d']
  | .object ((k, v) :: ms) =>
    '\x7b' :: newline (level + 1) ++ quote k ++ ':' :: ' ' :: v.layOut (level + 1) ++
      layOutMembers level ms

def layOutItems (level : Nat) : List Json → List Char
  | [] => newline level ++ [']']
  | v :: vs => ',' :: newline (level + 1) ++ v.layOut (level + 1) ++ layOutItems level vs

def layOutMembers (level : Nat) : List (String × Json) → List Char
  | [] => newline level ++ ['\x7d']
  | (k, v) :: ms =>
    ',' :: newline (level + 1) ++ quote k ++ ':' :: ' ' :: v.layOut (level + 1) ++
      layOutMembers level ms
end

def compact (v : Json) : String :=
  String.ofList v.print

def pretty (v : Json) : String :=
  String.ofList (v.layOut 0)

end ConsoleNav.Json
