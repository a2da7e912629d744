import ConsoleNav.Text.Percent

/-!
Paths: segments between slashes. One point stands for the place itself and two points for the place above
it, and neither stays in the path. Nothing leads out of a segment that names a drive, which the first one
of a file may do in two ways.
-/
namespace ConsoleNav.Address

def isControl (c : Char) : Bool :=
  c.toNat < 0x20 || 0x7F ≤ c.toNat

/-- What is escaped in fragments. -/
def escapedInFragment (c : Char) : Bool :=
  isControl c || " \"<>`".toList.contains c

/-- What is escaped in paths. -/
def escapedInPath (c : Char) : Bool :=
  escapedInFragment c || "#?\x7b\x7d".toList.contains c

/-- What is escaped in names and passwords. -/
def escapedInUser (c : Char) : Bool :=
  escapedInPath c || "/:;=@[\\]^|".toList.contains c

/-- What is escaped in queries. -/
def escapedInQuery (wellKnown : Bool) (c : Char) : Bool :=
  isControl c || " \"#<>".toList.contains c || (wellKnown && c == '\'')

def isSlash (wellKnown : Bool) (c : Char) : Bool :=
  c == '/' || (wellKnown && c == '\\')

/-- The segments of `cs`. -/
def segmentsOf (wellKnown : Bool) (cs : List Char) : List (List Char) :=
  Text.splitAt '/' (cs.map fun c => if isSlash wellKnown c then '/' else c)

/-- A segment with the escapes of points replaced. -/
def plainPoints : List Char → List Char
  | '%' :: '2' :: 'e' :: cs => '.' :: plainPoints cs
  | '%' :: '2' :: 'E' :: cs => '.' :: plainPoints cs
  | c :: cs => c :: plainPoints cs
  | [] => []

/-- The place itself. -/
def isHere (segment : List Char) : Bool :=
  plainPoints segment == ['.']

/-- The place above. -/
def isAbove (segment : List Char) : Bool :=
  plainPoints segment == ['.', '.']

/-- A letter and a colon, or a bar in its place. -/
def isDrive : List Char → Bool
  | [c, d] => c.isAlpha && (d == ':' || d == '|')
  | _ => false

/-- The segments without the last one. What names a drive stays. -/
def leave (above : List (List Char)) : List (List Char) :=
  if above.getLast?.any isDrive then above else above.dropLast

/-- One more segment below `above`. The first one of a file may be a drive, which is written with a
colon. -/
def enter (file : Bool) (above : List (List Char)) (segment : List Char) : List (List Char) :=
  if file && above.isEmpty && isDrive segment then [segment.take 1 ++ [':']]
  else above ++ [Text.escapeWhere escapedInPath segment]

/-- The segments of a path once those that stand for a place are followed. -/
def follow (file : Bool) : List (List Char) → List (List Char) → List (List Char)
  | above, [] => above
  | above, [segment] =>
    if isAbove segment then leave above ++ [[]]
    else if isHere segment then above ++ [[]]
    else enter file above segment
  | above, segment :: segments =>
    if isAbove segment then follow file (leave above) segments
    else if isHere segment then follow file above segments
    else follow file (enter file above segment) segments

/-- The segments of a path whose first slash has been read. -/
def pathSegments (wellKnown file : Bool) (cs : List Char) : List (List Char) :=
  follow file [] (segmentsOf wellKnown cs)

/-- The text of a path. That of a file begins with one slash. -/
def pathText (file : Bool) (segments : List (List Char)) : String :=
  let text := ['/'].intercalate segments
  String.ofList ('/' :: (if file then text.dropWhile (· == '/') else text))

end ConsoleNav.Address
