import ConsoleNav.Text.Split
import ConsoleNav.Text.Utf8

/-!
Percent escapes in addresses, and the form encoding of queries.
-/
namespace ConsoleNav.Text

/-- The value of a hexadecimal digit. -/
def hexValue? (c : Char) : Option Nat :=
  if '0' ≤ c ∧ c ≤ '9' then some (c.toNat - 48)
  else if 'a' ≤ c ∧ c ≤ 'f' then some (c.toNat - 87)
  else if 'A' ≤ c ∧ c ≤ 'F' then some (c.toNat - 55)
  else none

/-- The octets that a text with percent escapes stands for. A percent sign without two hexadecimal
digits stands for itself. -/
def percentOctets : List Char → List UInt8
  | [] => []
  | '%' :: a :: b :: cs =>
    match hexValue? a, hexValue? b with
    | some h, some l => UInt8.ofNat (h * 16 + l) :: percentOctets cs
    | _, _ => String.utf8EncodeChar '%' ++ percentOctets (a :: b :: cs)
  | c :: cs => String.utf8EncodeChar c ++ percentOctets cs

/-- A text with its percent escapes replaced, if the octets are well formed. -/
def percentDecode? (s : String) : Option String :=
  decodeUtf8? (percentOctets s.toList)

/-- A hexadecimal digit as escapes have it. -/
def escapeDigit (n : Nat) : Char :=
  if n < 10 then Char.ofNat (48 + n) else Char.ofNat (55 + n)

/-- The percent escape of an octet. -/
def octetEscape (b : UInt8) : List Char :=
  ['%', escapeDigit (b.toNat / 16), escapeDigit (b.toNat % 16)]

/-- The characters `cs`, of which those that satisfy `p` are escaped. -/
def escapeWhere (p : Char → Bool) (cs : List Char) : List Char :=
  cs.flatMap fun c => if p c then (String.utf8EncodeChar c).flatMap octetEscape else [c]

theorem escapeWhere_nil (p : Char → Bool) : escapeWhere p [] = [] := rfl

theorem escapeWhere_of_none {p : Char → Bool} {cs : List Char} (h : ∀ c ∈ cs, p c = false) :
    escapeWhere p cs = cs := by
  induction cs with
  | nil => rfl
  | cons c cs ih =>
    have hc : p c = false := h c (by simp)
    have hcs := ih fun d hd => h d (by simp [hd])
    simp only [escapeWhere] at hcs
    simp [escapeWhere, hc, hcs]

/-- One name or value of a form: a plus sign is a space, and refused octets are replaced. -/
def formDecode (cs : List Char) : String :=
  decodeUtf8Lossy (percentOctets (cs.map fun c => if c = '+' then ' ' else c))

/-- The name and the value of one member of a form: the text before and after its first equals sign. -/
def formMember (part : List Char) : String × String :=
  (formDecode (part.takeWhile (· != '=')), formDecode ((part.dropWhile (· != '=')).drop 1))

/-- The members of a form, in order. Empty parts are none. -/
def formMembers (query : String) : List (String × String) :=
  (partsAt '&' query.toList).map formMember

end ConsoleNav.Text
