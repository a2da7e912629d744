import ConsoleNav.Json.Octets
import ConsoleNav.Service.Exchange
import ConsoleNav.Text.MediaType

/-!
Reading the body of a request as a value. Its media type is looked at first, then its length, then what
it holds.
-/
namespace ConsoleNav.Service

open Json

inductive BodyFault where
  | notJson
  | tooLong
  | unreadable (fault : Fault)

namespace BodyFault

def code : BodyFault → Nat
  | .notJson => 415
  | .tooLong => 413
  | .unreadable fault =>
    match fault.cause.category with
    | .data => 422
    | .form | .ending => 400

def message : BodyFault → String
  | .notJson => "Expected request with `Content-Type: application/json`"
  | .tooLong => "Failed to buffer the request body: length limit exceeded"
  | .unreadable fault =>
    (match fault.cause.category with
      | .data => "Failed to deserialize the JSON body into the target type: "
      | .form | .ending => "Failed to parse the request body as JSON: ") ++ fault.messageWithPath

def response (f : BodyFault) : Response :=
  .text f.code f.message

end BodyFault

def bodyLimit : Nat := 2 * 1024 * 1024

/-- Whether a request says that its body is a JSON text. -/
def Request.hasJson (r : Request) : Bool :=
  match r.contentType.bind Text.MediaType.ofString? with
  | some m => m.isJson
  | none => false

def Request.read {α : Type} [Wire α] (r : Request) : Except BodyFault α :=
  if !r.hasJson then .error .notJson
  else if bodyLimit < r.body.length then .error .tooLong
  else
    match Wire.decodeOctets r.body with
    | .ok a => .ok a
    | .error fault => .error (.unreadable fault)

end ConsoleNav.Service
