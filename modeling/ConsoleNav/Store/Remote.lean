import ConsoleNav.Address.Client
import ConsoleNav.Menu.Wire
import ConsoleNav.Store.Fault

/-!
A menu source at an address of the web. A request that cannot be made or is not answered is made again
after a pause, which doubles from one pause to the next until it levels off; an answer, good or bad, is
final.
-/
namespace ConsoleNav.Store

/-- The pause in milliseconds after attempt number `attempt`, where the first has number 0. -/
def backoff (attempt : Nat) : Nat :=
  200 * Nat.pow 2 (min attempt 6)

theorem backoff_of_le {attempt : Nat} (h : 6 ≤ attempt) : backoff attempt = 12800 := by
  simp [backoff, Nat.min_eq_right h]

inductive Response where
  | dropped
  | answered (status : Nat) (body : String)

structure Remote where
  /-- The text of the address, without slashes at its end. -/
  base : String
  retries : Nat
  /-- What makes the requests. -/
  client : Address.Client

def Remote.ofAddress [client : Address.Client] (url : String) (retries : Nat) : Remote :=
  ⟨String.ofList (Text.stripEnd (· == '/') url.toList), retries, client⟩

/-- Why there can be no request. -/
inductive AddressFault where
  /-- The text is no address. -/
  | unreadable
  /-- Requests are not made with such an address. -/
  | unusable (a : Address)
deriving DecidableEq

def AddressFault.message : AddressFault → String
  | .unreadable => "builder error"
  | .unusable a => "builder error for url (" ++ a.text ++ ")"

def Remote.address (r : Remote) : Except AddressFault Address :=
  match r.client.read? (r.base ++ "/menus") with
  | none => .error .unreadable
  | some a =>
    let a := a.withoutUser
    if a.isWeb && a.isSendable then .ok a else .error (.unusable a)

/-- Whether a status ends an exchange. A number of other than three digits is no status, and all those
below 200 but the change of the protocol announce another answer, which does not come. -/
def isFinalStatus (status : Nat) : Bool :=
  status == 101 || (200 ≤ status && status ≤ 999)

/-- The body of an answer as text. Some answers have none, and a mark of the byte order at the beginning is
no part of the text. -/
def bodyText (status : Nat) (body : String) : String :=
  if status = 101 ∨ status = 204 ∨ status = 304 then ""
  else
    match body.toList with
    | c :: cs => if c.toNat = 0xFEFF then String.ofList cs else body
    | [] => body

/-- The fault of a request that is not answered. -/
def unanswered (a : Address) : FetchFault :=
  .unreachable ("error sending request for url (" ++ a.text ++ ")")

def Response.read (a : Address) : Response → Except FetchFault (List Menu.Entry)
  | .dropped => .error (unanswered a)
  | .answered status body =>
    if !isFinalStatus status then .error (unanswered a)
    else if status = 200 then
      match Json.Wire.decode body with
      | .ok menu => .ok menu
      | .error _ => .error (.undecodable "error decoding response body")
    else .error (.status status (bodyText status body))

/-- One attempt: its outcome, the number of requests made for it, and the responses left. Where no
response is left, a request is dropped. -/
def Remote.attempt (r : Remote) (responses : List Response) :
    Except FetchFault (List Menu.Entry) × Nat × List Response :=
  match r.address with
  | .error fault => (.error (.unreachable fault.message), 0, responses)
  | .ok a =>
    match responses with
    | [] => (Response.dropped.read a, 1, [])
    | response :: rest => (response.read a, 1, rest)

/-- What came of asking a remote source: how many requests were made, how long the pauses took, the
outcome unless patience ran out before it, and the responses left. -/
structure Report where
  requests : Nat
  waited : Nat
  outcome : Option (Except FetchFault (List Menu.Entry))
  responses : List Response

/-- Whether a wait is longer than the patience, if that is limited. -/
def exceeds (patience : Option Nat) (waited : Nat) : Bool :=
  match patience with
  | none => false
  | some p => p < waited

/-- Attempts from number `attempt` on, of which `left` may be followed by another one. -/
def Remote.askFrom (r : Remote) (patience : Option Nat) :
    Nat → (attempt requests waited : Nat) → List Response → Report
  | left, attempt, requests, waited, responses =>
    let (outcome, made, responses) := r.attempt responses
    match outcome, left with
    | .error (.unreachable _), left + 1 =>
      let waited := waited + backoff attempt
      if exceeds patience waited then ⟨requests + made, waited, none, responses⟩
      else r.askFrom patience left (attempt + 1) (requests + made) waited responses
    | outcome, _ => ⟨requests + made, waited, some outcome, responses⟩

def Remote.ask (r : Remote) (patience : Option Nat) (responses : List Response) : Report :=
  r.askFrom patience r.retries 0 0 0 responses

end ConsoleNav.Store
