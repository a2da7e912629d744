import ConsoleNav.Address.Number

/-!
Where the service listens, and why it cannot. A host is a number, or a name of which only the one of the
machine itself can be looked up.
-/
namespace ConsoleNav.Service

inductive ListenFault where
  /-- The host has the character that ends names. -/
  | brokenName
  /-- The host is neither a number nor a name. -/
  | noName
  /-- Nobody is there to look the name up. -/
  | unknownName
  /-- The host is another machine. -/
  | elsewhere
  /-- Another service listens there. -/
  | occupied
deriving DecidableEq

def ListenFault.message : ListenFault → String
  | .brokenName => "file name contained an unexpected NUL byte"
  | .noName => "failed to lookup address information: Name or service not known"
  | .unknownName => "failed to lookup address information: Temporary failure in name resolution"
  | .elsewhere => "Cannot assign requested address (os error 99)"
  | .occupied => "Address already in use (os error 98)"

/-! ## Names -/

def isNameChar (c : Char) : Bool :=
  c.isAlphanum || c == '-' || c == '_'

/-- The labels of a name. A point at its end does not count. -/
def labelsOf (host : List Char) : List (List Char) :=
  match (Text.splitAt '.' host).reverse with
  | [] :: rest => rest.reverse
  | labels => labels.reverse

/-- Whether a host is a name that can be looked up. A point alone is the root of all names. -/
def isName (host : List Char) : Bool :=
  let labels := labelsOf host
  host == ['.'] || (host.head? != some '-' &&
    labels.all (fun l => !l.isEmpty && l.length ≤ 63 && l.all isNameChar) &&
    !labels.isEmpty && (['.'].intercalate labels).length ≤ 253)

/-! ## Places -/

/-- The number 0 stands for all addresses, and those that begin with 127 for the machine itself. -/
def isOwnV4 (n : Nat) : Bool :=
  n == 0 || n / 16777216 == 127

/-- The number 0 stands for all addresses, and 1 for the machine itself. A number of 32 bits may be put
behind `::ffff`. -/
def isOwnV6 (pieces : List Nat) : Bool :=
  match pieces with
  | [0, 0, 0, 0, 0, 65535, a, b] => isOwnV4 (a * 65536 + b)
  | [0, 0, 0, 0, 0, 0, 0, n] => n ≤ 1
  | _ => false

/-- A number of 128 bits without the brackets that it may stand in. -/
def withoutBrackets (cs : List Char) : List Char :=
  match cs with
  | '[' :: rest => if rest.getLast? = some ']' then rest.dropLast else cs
  | _ => cs

/-- Whether a host is a number of the machine itself, if it is a number. -/
def isOwnNumber? (host : List Char) : Option Bool :=
  match Address.readV6? (withoutBrackets host) with
  | some pieces => some (isOwnV6 pieces)
  | none => if host.getLast? = some '.' then none else (Address.readV4? host).map isOwnV4

/-- Why a host is not the machine itself. -/
def hostFault? (host : List Char) : Option ListenFault :=
  match isOwnNumber? host with
  | some own => if own then none else some .elsewhere
  | none =>
    if host.map Char.toLower = "localhost".toList then none
    else if isName host then some .unknownName
    else some .noName

/-- Why the service cannot listen at a host and a port, where other services listen at the `occupied`
ports of the machine. -/
def listenFault? (occupied : List UInt16) (host : String) (port : UInt16) : Option ListenFault :=
  if host.toList.any (·.toNat == 0) then some .brokenName
  else
    match hostFault? host.toList with
    | some fault => some fault
    | none => if occupied.contains port then some .occupied else none

end ConsoleNav.Service
