/-!
The target of a request as it is written: it may have a scheme and a host, and it has a path, a query and
a fragment.
-/
namespace ConsoleNav.Text

def isSchemeChar (c : Char) : Bool :=
  c.isAlphanum || c == '+' || c == '-' || c == '.'

/-- A target without its scheme and its host. -/
def afterHost (target : List Char) : List Char :=
  match target.dropWhile isSchemeChar with
  | ':' :: '/' :: '/' :: rest => rest.dropWhile fun c => c != '/' && c != '?' && c != '#'
  | _ => target

/-- The path of a target, as it is written there. -/
def pathOf (target : String) : String :=
  String.ofList ((afterHost target.toList).takeWhile fun c => c != '?' && c != '#')

/-- The query of a target, which is empty if there is none. -/
def queryOf (target : String) : String :=
  String.ofList ((((afterHost target.toList).takeWhile (· != '#')).dropWhile (· != '?')).drop 1)

end ConsoleNav.Text
