import ConsoleNav.Address.Basic
import ConsoleNav.Text.Blank

/-!
Clients make the requests, and each reads the texts of addresses in its own way. Blanks and controls at the
ends of a text do not count for its address, and neither do tabs and ends of lines anywhere.
-/
namespace ConsoleNav.Address

/-- What makes requests. How it reads the text of an address is left to it. -/
class Client where
  read? : String → Option Address

def isIgnored (c : Char) : Bool :=
  c == '\t' || c == '\n' || c == '\x0d'

/-- The characters of a text that count for its address. -/
def relevant (text : String) : List Char :=
  (Text.stripBoth (fun c => c.toNat ≤ 0x20) text.toList).filter (!isIgnored ·)

end ConsoleNav.Address
