import ConsoleNav.Json.Reader

/-!
Skipping a value of which only the form matters. There is no bound on its nesting; numbers may be out
of range and escapes need not make up characters.
-/
namespace ConsoleNav.Json

inductive Bracket where
  | list
  | object
deriving DecidableEq

/-- What a skipped text goes on with: a value, the first item or member after an opening bracket, or
what follows an item or a member. -/
inductive Skipping where
  | value
  | first
  | next
deriving DecidableEq

/-- The rest of the text after a value that is neither a list nor an object. -/
def skipScalar (cs : List Char) : Except Cause (List Char) :=
  match cs with
  | [] => .error .endInValue
  | 'n' :: rest => word ['u', 'l', 'l'] rest
  | 't' :: rest => word ['r', 'u', 'e'] rest
  | 'f' :: rest => word ['a', 'l', 's', 'e'] rest
  | '"' :: rest => skipString rest
  | c :: rest => if c = '-' ∨ c.isDigit then skipNumber (c :: rest) else .error .expectedValue

def skipKey (cs : List Char) : Except Cause (List Char) :=
  match skipGap cs with
  | [] => .error .endInObject
  | '"' :: rest => do colon (← skipString rest)
  | _ => .error .keyNotString

def skipToValue (b : Bracket) (cs : List Char) : Except Cause (List Char) :=
  match b with
  | .list => .ok cs
  | .object => skipKey cs

def Bracket.close : Bracket → Char
  | .list => ']'
  | .object => '\x7d'

/-- The rest of the text after the value, given the brackets that are open around it. A text of `n`
characters takes at most `2 * n + 1` steps. -/
def skipFrom : Nat → Skipping → List Bracket → List Char → Except Cause (List Char)
  | 0, _, _, _ => .error .endInValue
  | fuel + 1, .value, brackets, cs =>
    match skipGap cs with
    | '[' :: rest => skipFrom fuel .first (.list :: brackets) rest
    | '\x7b' :: rest => skipFrom fuel .first (.object :: brackets) rest
    | cs => do skipFrom fuel .next brackets (← skipScalar cs)
  | _ + 1, _, [], cs => .ok cs
  | fuel + 1, state, b :: brackets, cs =>
    match skipGap cs with
    | [] => .error (match b with
      | .list => .endInList
      | .object => .endInObject)
    | c :: rest =>
      if c = b.close then skipFrom fuel .next brackets rest
      else if state = .first then do skipFrom fuel .value (b :: brackets) (← skipToValue b (c :: rest))
      else if c = ',' then do skipFrom fuel .value (b :: brackets) (← skipToValue b rest)
      else .error (match b with
        | .list => .expectedCommaInList
        | .object => .expectedCommaInObject)

def skipValue (size : Nat) (cs : List Char) : Except Cause (List Char) :=
  skipFrom (2 * size + 2) .value [] cs

end ConsoleNav.Json
