import ConsoleNav.Json.Wire
import ConsoleNav.Text.Utf8

/-!
Values read from octets that need not encode a text. A string with octets that belong to no character is
refused at its end if it is read, and passed over like any other if it is skipped; between the strings such
octets are no better than other characters that have no place there.
-/
namespace ConsoleNav.Json

/-- What a text is in the middle of. A string may have been found to be none already. -/
inductive Amid where
  | parts
  | string (refused : Bool)
  | escape (refused : Bool)

/-- A text for octets, with one character for each octet that belongs to none, and with `mark` at the end of
each string that has such octets. -/
def mend (mark : List Char) : Amid → List (Option Char) → List Char
  | _, [] => []
  | .parts, c :: cs =>
    c.getD '\x7f' :: mend mark (if c = some '"' then .string false else .parts) cs
  | .string refused, c :: cs =>
    if c = some '"' then (if refused then mark else []) ++ '"' :: mend mark .parts cs
    else c.getD '\x7f' ::
      mend mark (if c = some '\\' then .escape refused else .string (refused || c.isNone)) cs
  | .escape refused, c :: cs => c.getD '\x7f' :: mend mark (.string refused) cs

/-- The value that octets hold. Where they do not encode a text, a string that is refused is one at whose
end a fault depends on which mark stands there: either mark is an escape that can be skipped but stands for
no character. -/
def Wire.decodeOctets {α : Type} [Wire α] (octets : List UInt8) : Except Fault α :=
  match Text.decodeUtf8? octets with
  | some text => decode text
  | none =>
    let read (mark : String) : Except Fault α :=
      decode (String.ofList (mend mark.toList .parts (Text.looseChars 0 octets)))
    match read "\\udc00", read "\\ud800" with
    | .error ⟨path, .loneSurrogate⟩, .error ⟨_, .unfinishedSurrogate⟩ => .error ⟨path, .notUnicode⟩
    | result, _ => result

theorem Wire.decodeOctets_encodeUtf8 {α : Type} [Wire α] (text : String) :
    (decodeOctets (Text.encodeUtf8 text) : Except Fault α) = decode text := by
  rw [decodeOctets, Text.decodeUtf8?_encodeUtf8]

end ConsoleNav.Json
