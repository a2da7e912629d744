import ConsoleNav.Keyed
import ConsoleNav.Text.Blank
import ConsoleNav.Text.Split

/-!
Paths and patterns. A pattern is a list of segments, some of which capture the segment of the path in
their place under a name.
-/
namespace ConsoleNav.Route

/-- The segments of a path: what stands between its slashes, without empty parts. -/
def segmentsOf (cs : List Char) : List String :=
  (Text.partsAt '/' cs).map String.ofList

/-- A path without its query and fragment and without slashes at its ends. -/
def innerPath (path : String) : List Char :=
  Text.stripBoth (· == '/') (path.toList.takeWhile fun c => c != '?' && c != '#')

def normalizePath (path : String) : String :=
  String.ofList ('/' :: innerPath path)

inductive Segment where
  | literal (text : String)
  | capture (name : String)
deriving DecidableEq

def Segment.ofString (s : String) : Segment :=
  match s.toList with
  | ':' :: name => .capture (String.ofList name)
  | _ => .literal s

abbrev Pattern := List Segment

/-- The pattern of a record below a base pattern. A path that begins with a slash starts anew. -/
def extendPattern (base : Pattern) (path : String) : Pattern :=
  (if path.toList.head? = some '/' then [] else base) ++ (segmentsOf path.toList).map Segment.ofString

/-- The captures of a pattern that matches the segments of a path, from left to right. -/
def matchSegments : Pattern → List String → Option (List (String × String))
  | [], [] => some []
  | .literal text :: pattern, s :: ss => if text = s then matchSegments pattern ss else none
  | .capture name :: pattern, s :: ss => (matchSegments pattern ss).map ((name, s) :: ·)
  | _, _ => none

/-- The value of each capture; of two captures with one name the right one counts. -/
def parameters (captures : List (String × String)) : List (String × String) :=
  Keyed.ofList captures

end ConsoleNav.Route
