import ConsoleNav.Json.Wire
import ConsoleNav.Text.Utf8

/-!
Requests made to the service and the responses to them. The body of a request is any octets, that of a
response is a text.
-/
namespace ConsoleNav.Service

/-- A text stands for the octets that it is sent as. -/
instance octetsOfText : Coe String (List UInt8) where
  coe := Text.encodeUtf8

structure Request where
  method : String
  target : String
  contentType : Option String := none
  body : List UInt8 := []

structure Response where
  code : Nat
  contentType : Option String := none
  /-- The methods that the address allows, where the response has to name them. -/
  allow : Option String := none
  body : String := ""
deriving DecidableEq

namespace Response

def empty (code : Nat) : Response where
  code := code

def text (code : Nat) (s : String) : Response where
  code := code
  contentType := some "text/plain; charset=utf-8"
  body := s

def json (v : Json) : Response where
  code := 200
  contentType := some "application/json"
  body := v.compact

def value {α : Type} [Json.Wire α] (a : α) : Response :=
  .json (Json.Wire.toJson a)

def withoutBody (r : Response) : Response :=
  { r with body := "" }

end Response

end ConsoleNav.Service
