import ConsoleNav.Address.Client
import ConsoleNav.Address.Name
import ConsoleNav.Address.Path

/-!
A client of the program's own, for programs that bring no other one. Blanks and controls at the ends do not count, and neither do tabs and ends of lines
anywhere. An address is refused if it has no scheme, if its host is missing where there has to be one or
is none, or if its port is none.
-/
namespace ConsoleNav.Address

def isSchemeChar (c : Char) : Bool :=
  c.isAlphanum || c == '+' || c == '-' || c == '.'

/-- A scheme in small letters, and what follows its colon. -/
def takeScheme? (cs : List Char) : Option (String × List Char) :=
  match cs.dropWhile isSchemeChar with
  | ':' :: rest =>
    if cs.head?.any Char.isAlpha then
      some (String.ofList ((cs.takeWhile isSchemeChar).map Char.toLower), rest)
    else none
  | _ => none

def endsHost (wellKnown : Bool) (c : Char) : Bool :=
  isSlash wellKnown c || c == '?' || c == '#'

/-! ## Hosts -/

/-- The characters that hosts of other schemes do not have. -/
def isForeignReserved (c : Char) : Bool :=
  " #/:<>?@[\\]^|".toList.contains c || c.toNat == 0

/-- A host that is not empty. -/
def readHost? (wellKnown : Bool) (cs : List Char) : Option Host :=
  match cs with
  | '[' :: rest =>
    if rest.getLast? = some ']' then (readV6? rest.dropLast).map .v6 else none
  | _ =>
    if wellKnown then do
      let name ← nameToAscii? cs
      if name.isEmpty then none
      if endsInNumber name then (readV4? name).map .v4 else some (.name (String.ofList name))
    else if cs.any isForeignReserved then none
    else some (.name (String.ofList (Text.escapeWhere isControl cs)))

/-- The text of a host and what follows it. A colon within brackets belongs to it. -/
def takeHost (wellKnown : Bool) : Bool → List Char → List Char × List Char
  | _, [] => ([], [])
  | inBrackets, c :: cs =>
    if (c == ':' && !inBrackets) || endsHost wellKnown c then ([], c :: cs)
    else
      let (host, rest) := takeHost wellKnown (c == '[' || (inBrackets && c != ']')) cs
      (c :: host, rest)

/-- A port that differs from the one that need not be given, and what follows it. -/
def takePort? (scheme : String) (cs : List Char) : Option (Option Nat × List Char) :=
  match cs with
  | ':' :: rest =>
    let digits := rest.takeWhile Char.isDigit
    let rest := rest.dropWhile Char.isDigit
    let port := digits.foldl (fun n c => n * 10 + (c.toNat - 48)) 0
    if 65535 < port ∨ rest.head?.any (fun c => !endsHost true c) then none
    else some (if digits.isEmpty || some port == defaultPort? scheme then none else some port, rest)
  | _ => some (none, cs)

/-! ## Users -/

/-- What stands before and after the last at sign. -/
def splitUser (cs : List Char) : Option (List Char × List Char) :=
  match cs.reverse.dropWhile (· != '@') with
  | [] => none
  | _ :: before => some (before.reverse, (cs.reverse.takeWhile (· != '@')).reverse)

/-- Who asks, if a name or a password is given. -/
def userOf (cs : List Char) : Option User :=
  let escaped (cs : List Char) : String := String.ofList (Text.escapeWhere escapedInUser cs)
  let name := cs.takeWhile (· != ':')
  let password := (cs.dropWhile (· != ':')).drop 1
  if name.isEmpty && password.isEmpty then none
  else some ⟨escaped name, if password.isEmpty then none else some (escaped password)⟩

/-! ## Addresses -/

/-- An address with its path, given what follows the path. -/
def withQuery (a : Address) (cs : List Char) : Address :=
  let wellKnown := isWellKnown a.scheme
  let query := cs.takeWhile (· != '#')
  let fragment := cs.dropWhile (· != '#')
  { a with
    query := match query with
      | [] => none
      | _ :: query => some (String.ofList (Text.escapeWhere (escapedInQuery wellKnown) query))
    fragment := match fragment with
      | [] => none
      | _ :: fragment => some (String.ofList (Text.escapeWhere escapedInFragment fragment)) }

def endsPath (c : Char) : Bool :=
  c == '?' || c == '#'

/-- An address with the path and all that follows it. The slash at the beginning has been read. A file on
a drive has no host. -/
def withPath (a : Address) (cs : List Char) : Address :=
  let file := a.scheme == "file"
  let segments := pathSegments (isWellKnown a.scheme) file (cs.takeWhile (!endsPath ·))
  let host := if file && segments.head?.any isDrive then some (.name "") else a.host
  { a with host, path := pathText file segments : Address }.withQuery (cs.dropWhile (!endsPath ·))

def withRest (a : Address) (cs : List Char) : Address :=
  let wellKnown := isWellKnown a.scheme
  match cs with
  | [] => if wellKnown then a.withPath [] else a
  | c :: rest =>
    if isSlash wellKnown c then a.withPath rest
    else if endsPath c && !wellKnown then a.withQuery cs
    else a.withPath cs

def readFromHost? (scheme : String) (cs : List Char) : Option Address := do
  let wellKnown := isWellKnown scheme
  let (info, cs) := match splitUser (cs.takeWhile (!endsHost wellKnown ·)) with
    | none => (none, cs)
    | some (info, _) => (some info, cs.drop (info.length + 1))
  let user := info.bind userOf
  let (hostText, rest) := takeHost wellKnown false cs
  let host ← if hostText.isEmpty then
      if wellKnown || rest.head? == some ':' || user.isSome || info == some [] then none
      else some (.name "")
    else readHost? wellKnown hostText
  let (port, rest) ← takePort? scheme rest
  some ({ scheme, user, host := some host, port, path := "" : Address }.withRest rest)

/-- The host of a file, where none is given for the machine itself. -/
def readFileHost? (cs : List Char) : Option Host :=
  if cs.isEmpty then some (.name "")
  else do
    let host ← readHost? true cs
    some (if host = .name "localhost" then .name "" else host)

/-- An address of a file, given what follows its scheme. A drive is no host. -/
def readFile? (cs : List Char) : Option Address :=
  let here : Address := { scheme := "file", host := some (.name ""), path := "" }
  match cs with
  | c :: d :: rest =>
    if isSlash true c && isSlash true d then
      let hostText := rest.takeWhile (!endsHost true ·)
      if isDrive hostText then some (here.withPath rest)
      else do
        let host ← readFileHost? hostText
        some ({ here with host := some host }.withRest (rest.drop hostText.length))
    else some (here.withRest cs)
  | _ => some (here.withRest cs)

def read? (text : String) : Option Address := do
  let (scheme, rest) ← takeScheme? (relevant text)
  if scheme = "file" then readFile? rest
  else if isWellKnown scheme then readFromHost? scheme (rest.dropWhile (isSlash true))
  else
    match rest with
    | '/' :: '/' :: rest => readFromHost? scheme rest
    | '/' :: rest => some ({ scheme, path := "" : Address }.withPath rest)
    | _ =>
      let path := String.ofList (Text.escapeWhere isControl (rest.takeWhile (!endsPath ·)))
      some ({ scheme, path : Address }.withQuery (rest.dropWhile (!endsPath ·)))

instance ownClient : Client where
  read? := read?

end ConsoleNav.Address
