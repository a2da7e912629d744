import ConsoleNav.Service.App

/-!
A session with the service: requests and first loads, in the foreground and in the background, each of
them a step with a reply.
-/
namespace ConsoleNav.Service

/-- Something in the background whose outcome somebody may ask for. -/
inductive Job where
  | answered (r : Response)
  | request (ticket : Nat)
  | firstLoad (ticket : Nat)

inductive Step where
  | request (r : Request)
  | start (id : String) (r : Request)
  | join (id : String)
  | wait (millis : Nat)
  | firstLoad
  | startFirstLoad (id : String)
  | describe

inductive Outcome where
  | response (r : Response)
  | loaded
  | failed (fault : Store.LoadFault)
  | done
  | description (store filter : String) (resolved : List String)
  | unknownId

structure Session where
  app : App
  /-- What is in the background, under its names. -/
  jobs : List (String × Job) := []

namespace Session

def withStore (s : Session) (store : Store) : Session :=
  { s with app := { s.app with store } }

def responseOf : Option Store.Answer → Outcome
  | some answer => .response (loadResponse answer)
  | none => .unknownId

def firstLoadOf : Option Store.Answer → Outcome
  | some (.ok _) => .loaded
  | some (.error fault) => .failed fault
  | none => .unknownId

def await (s : Session) (ticket : Nat) : Option Store.Answer × Session :=
  let (answer, store) := s.app.store.await ticket
  (answer, s.withStore store)

def finish (s : Session) : Job → Outcome × Session
  | .answered r => (.response r, s)
  | .request ticket =>
    let (answer, s) := s.await ticket
    (responseOf answer, s)
  | .firstLoad ticket =>
    let (answer, s) := s.await ticket
    (firstLoadOf answer, s)

def jobOf : Reply → Job
  | .response r => .answered r
  | .load ticket => .request ticket

def startLoad (s : Session) : Nat × Session :=
  let (ticket, store) := s.app.store.start
  (ticket, s.withStore store)

def step (s : Session) : Step → Outcome × Session
  | .request r =>
    let (reply, app) := s.app.receive r
    { s with app }.finish (jobOf reply)
  | .start id r =>
    let (reply, app) := s.app.receive r
    let s := { s with app, jobs := (id, jobOf reply) :: s.jobs }
    (.done, s.withStore s.app.store.settle)
  | .join id =>
    match s.jobs.lookup id with
    | none => (.unknownId, s)
    | some job => s.finish job
  | .wait millis => (.done, s.withStore (s.app.store.wait millis))
  | .firstLoad =>
    let (ticket, s) := s.startLoad
    s.finish (.firstLoad ticket)
  | .startFirstLoad id =>
    let (ticket, s) := s.startLoad
    (.done, { s with jobs := (id, .firstLoad ticket) :: s.jobs })
  | .describe =>
    (.description s.app.store.describe s.app.filter.builtName s.app.table.resolvedNames, s)

/-- The outcomes of steps taken one after the other, each with the session after it. -/
def run (s : Session) : List Step → List (Outcome × Session)
  | [] => []
  | step :: steps =>
    let (outcome, s) := s.step step
    (outcome, s) :: s.run steps

end Session

end ConsoleNav.Service
