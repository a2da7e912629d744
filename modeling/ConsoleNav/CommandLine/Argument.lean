/-!
Arguments taken apart: long options with two dashes, short ones with one, and all else.
-/
namespace ConsoleNav.CommandLine

inductive Argument where
  /-- Two dashes alone, after which nothing is an option. -/
  | endOfOptions
  /-- A long option, and its value if one is attached with an equals sign. -/
  | long (name : String) (value : Option String)
  /-- A short option, and what is attached to it. -/
  | short (letter : Char) (attached : List Char)
  | plain (text : String)
deriving DecidableEq

/-- A long option without its dashes. -/
def Argument.ofLong (cs : List Char) : Argument :=
  let name := String.ofList (cs.takeWhile (· != '='))
  match cs.dropWhile (· != '=') with
  | [] => .long name none
  | _ :: value => .long name (some (String.ofList value))

def Argument.ofString (s : String) : Argument :=
  match s.toList with
  | ['-', '-'] => .endOfOptions
  | '-' :: '-' :: cs => .ofLong cs
  | '-' :: letter :: attached => .short letter attached
  | _ => .plain s

/-- Whether an argument may stand as the value of the option before it. -/
def mayBeValue (s : String) : Bool :=
  match Argument.ofString s with
  | .plain _ => true
  | _ => false

/-- The value attached to a short option, where an equals sign may stand between them. -/
def attachedValue : List Char → String
  | '=' :: cs => String.ofList cs
  | cs => String.ofList cs

end ConsoleNav.CommandLine
