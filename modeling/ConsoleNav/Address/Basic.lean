import ConsoleNav.Address.Number

/-!
What an address is made of, and its text.
-/
namespace ConsoleNav

namespace Address

inductive Host where
  /-- A name, which may be empty. -/
  | name (text : String)
  /-- A number of 32 bits. -/
  | v4 (n : Nat)
  /-- A number of 128 bits, in eight pieces. -/
  | v6 (pieces : List Nat)
deriving DecidableEq

def Host.text : Host → String
  | .name s => s
  | .v4 n => v4Text n
  | .v6 pieces => "[" ++ v6Text pieces ++ "]"

/-- The schemes whose addresses have a host, paths and a port in a way known to all. -/
def isWellKnown (scheme : String) : Bool :=
  ["http", "https", "ws", "wss", "ftp", "file"].contains scheme

/-- The port that need not be given. -/
def defaultPort? (scheme : String) : Option Nat :=
  if scheme = "http" ∨ scheme = "ws" then some 80
  else if scheme = "https" ∨ scheme = "wss" then some 443
  else if scheme = "ftp" then some 21
  else none

/-- Who asks: a name and a password, both in their escaped form. -/
structure User where
  name : String
  password : Option String
deriving DecidableEq

def User.text (u : User) : String :=
  u.name ++ (match u.password with
    | some p => ":" ++ p
    | none => "")

end Address

open Address in
/-- An address, all of whose parts are in their escaped form. -/
structure Address where
  scheme : String
  user : Option User := none
  host : Option Host := none
  port : Option Nat := none
  path : String
  query : Option String := none
  fragment : Option String := none
deriving DecidableEq

namespace Address

/-- The host of an address, with who asks it and at which port. -/
def authority (a : Address) (h : Host) : String :=
  (match a.user with
    | some u => u.text ++ "@"
    | none => "") ++ h.text ++
  (match a.port with
    | some p => ":" ++ toString p
    | none => "")

def target (a : Address) : String :=
  a.path ++ (match a.query with
    | some q => "?" ++ q
    | none => "")

/-- The text of an address. Where there is no host, a path that begins with two slashes is set apart. -/
def text (a : Address) : String :=
  a.scheme ++ ":" ++
  (match a.host with
    | some h => "//" ++ a.authority h
    | none => if a.path.toList.take 2 = ['/', '/'] then "/." else "") ++
  a.target ++
  (match a.fragment with
    | some f => "#" ++ f
    | none => "")

/-- Whether the name is a text, and the password is one where there is no name. -/
def User.isReadable (u : User) : Bool :=
  (Text.percentDecode? u.name).isSome &&
    (!u.name.isEmpty || u.password.any fun p => (Text.percentDecode? p).isSome)

/-- An address without who asks, unless that cannot be read. -/
def withoutUser (a : Address) : Address :=
  if a.user.any User.isReadable then { a with user := none } else a

/-- Whether requests go to the address as messages of the web do. -/
def isWeb (a : Address) : Bool :=
  a.scheme == "http" || a.scheme == "https"

/-- The greatest length in octets of an address that requests are made with. -/
def lengthLimit : Nat := 65534

/-- Whether requests can be made with the address: it is short enough, and its host has no quotes and no
braces. -/
def isSendable (a : Address) : Bool :=
  a.text.utf8ByteSize ≤ lengthLimit &&
    !(a.host.any fun h => h.text.toList.any fun c => c == '"' || c == '`' || c == '\x7b' || c == '\x7d')

end Address

end ConsoleNav
