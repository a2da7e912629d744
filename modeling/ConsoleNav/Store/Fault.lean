import ConsoleNav.Menu.Violation
import ConsoleNav.Text.Span

/-!
Why a menu could not be had from its source, and why a load did not commit one.
-/
namespace ConsoleNav.Store

inductive FetchFault where
  | unreachable (reason : String)
  | timedOut (millis : Nat)
  | status (code : Nat) (body : String)
  | undecodable (reason : String)
deriving DecidableEq

def FetchFault.message : FetchFault → String
  | .unreachable reason => "menu source unreachable: " ++ reason
  | .timedOut millis => "menu source did not answer within " ++ Text.spanText millis
  | .status code body => "menu source returned " ++ toString code ++ ": " ++ body
  | .undecodable reason => "menu source returned undecodable data: " ++ reason

inductive LoadFault where
  | fetch (fault : FetchFault)
  | malformed (violations : List Menu.Violation)
  | superseded
deriving DecidableEq

def LoadFault.message : LoadFault → String
  | .fetch fault => fault.message
  | .malformed violations =>
    "menu data is malformed: " ++ "; ".intercalate (violations.map Menu.Violation.message)
  | .superseded => "menu load was superseded by a newer request"

end ConsoleNav.Store
