/-!
Media types, such as `application/json; charset=utf-8`.
-/
namespace ConsoleNav.Text

/-- A media type in lower case, without its parameters. -/
structure MediaType where
  family : String
  /-- The name within the family, up to its suffix. -/
  subtype : String
  /-- What follows the last plus sign. -/
  suffix : Option String
deriving DecidableEq

namespace MediaType

def isTokenChar (c : Char) : Bool :=
  c.isAlphanum || "!#$%&'*+-.^_`|~".toList.contains c

/-- Where one is within the parameters of a media type. `isEmpty` tells that nothing has been read yet of
a name or of a value. -/
inductive Place where
  | name (isEmpty : Bool)
  | value (isEmpty : Bool)
  | quoted (isEmpty : Bool)
  | closed

/-- The place after one more character, unless it is not allowed there. -/
def Place.step : Place → Char → Option Place
  | .name true, ' ' => some (.name true)
  | .name false, '=' => some (.value true)
  | .name _, c => if isTokenChar c then some (.name false) else none
  | .value true, '"' => some (.quoted true)
  | .value false, ';' => some (.name true)
  | .value _, c => if isTokenChar c then some (.value false) else none
  | .quoted false, '"' => some .closed
  | .quoted _, c => if ' ' ≤ c ∧ c ≠ '\x7f' then some (.quoted false) else none
  | .closed, ' ' => some .closed
  | .closed, ';' => some (.name true)
  | .closed, _ => none

/-- Whether the parameters may end at a place. -/
def Place.mayEnd : Place → Bool
  | .name isEmpty => isEmpty
  | .value _ => true
  | .quoted _ => false
  | .closed => true

/-- Whether a text, from a semicolon on, holds parameters. -/
def areParameters : List Char → Bool
  | [] => true
  | ';' :: cs =>
    match cs.foldlM Place.step (.name true) with
    | some place => place.mayEnd
    | none => false
  | _ => false

def lower (cs : List Char) : String :=
  String.ofList (cs.map Char.toLower)

/-- The two parts of a name within a family. A plus sign at its beginning does not part it. -/
def splitSuffix (name : List Char) : List Char × Option (List Char) :=
  let tail := name.drop 1
  if tail.contains '+' then
    let suffix := (tail.reverse.takeWhile (· != '+')).reverse
    (name.take (name.length - suffix.length - 1), some suffix)
  else (name, none)

def ofString? (s : String) : Option MediaType :=
  let cs := s.toList
  let family := cs.takeWhile isTokenChar
  match cs.dropWhile isTokenChar with
  | '/' :: rest =>
    let name := rest.takeWhile isTokenChar
    let parameters := rest.dropWhile isTokenChar
    if family.isEmpty || (name.isEmpty && !parameters.isEmpty) || !areParameters parameters ||
        cs.any (fun c => 0x7F ≤ c.toNat) then none
    else
      let (subtype, suffix) := splitSuffix name
      some ⟨lower family, lower subtype, suffix.map lower⟩
  | _ => none

/-- Whether values of a media type are JSON texts. -/
def isJson (m : MediaType) : Bool :=
  m.family == "application" && (m.subtype == "json" || m.suffix == some "json")

end MediaType

end ConsoleNav.Text
