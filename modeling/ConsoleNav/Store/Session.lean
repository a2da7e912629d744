import ConsoleNav.Menu.Drawing
import ConsoleNav.Store.Status
import ConsoleNav.Store.Time

/-!
A session with a store: writes, loads in the foreground and in the background, and looks at the store
and at snapshots kept aside, each of them a step with a reply.
-/
namespace ConsoleNav.Store

inductive Step where
  | set (menu : List Menu.Entry)
  | load
  | start (id : String)
  | join (id : String)
  | abort (id : String)
  | wait (millis : Nat)
  | state
  | find (menuId : String)
  | draw
  | hold (id : String)
  | held (id : String)

inductive Reply where
  | written (menu : List Menu.Entry)
  | answered (answer : Answer)
  | aborted (wasPending : Bool)
  | menu (menu : List Menu.Entry)
  | entry (found : Option Menu.Entry)
  | drawing (text : String)
  | held (menu : List Menu.Entry) (isCurrent : Bool)
  | done
  | unknownId

structure Session where
  store : Store
  /-- The tickets of background loads, under their names. -/
  loads : List (String × Nat) := []
  /-- The snapshots kept aside, under their names. -/
  kept : List (String × Snapshot) := []

namespace Session

def ticket? (id : String) (s : Session) : Option Nat :=
  s.loads.lookup id

def ofAnswer : Option Answer × Store → Reply × Store
  | (some answer, store) => (.answered answer, store)
  | (none, store) => (.unknownId, store)

def step (s : Session) : Step → Reply × Session
  | .set menu =>
    let (snapshot, store) := s.store.set menu
    (.written snapshot.menu, { s with store })
  | .load =>
    let (reply, store) := ofAnswer s.store.load
    (reply, { s with store })
  | .start id =>
    let (ticket, store) := s.store.start
    (.done, { s with store, loads := (id, ticket) :: s.loads })
  | .join id =>
    match s.ticket? id with
    | none => (.unknownId, s)
    | some ticket =>
      let (reply, store) := ofAnswer (s.store.await ticket)
      (reply, { s with store })
  | .abort id =>
    match s.ticket? id with
    | none => (.unknownId, s)
    | some ticket =>
      let (wasPending, store) := s.store.abort ticket
      (.aborted wasPending, { s with store := store.settle })
  | .wait millis => (.done, { s with store := s.store.wait millis })
  | .state => (.menu s.store.snapshot.menu, s)
  | .find menuId => (.entry (s.store.find? menuId), s)
  | .draw => (.drawing (Menu.draw s.store.snapshot.menu), s)
  | .hold id => (.done, { s with kept := (id, s.store.snapshot) :: s.kept })
  | .held id =>
    match s.kept.lookup id with
    | none => (.unknownId, s)
    | some snapshot =>
      (.held snapshot.menu (snapshot.serial == s.store.snapshot.serial), s)

/-- The replies to steps taken one after the other, each with the session after it. -/
def run (s : Session) : List Step → List (Reply × Session)
  | [] => []
  | step :: steps =>
    let (reply, s) := s.step step
    (reply, s) :: s.run steps

/-- The names of background loads that have ended and whose answers nobody has taken, in order. -/
def finishedIds (s : Session) : List String :=
  let ids := s.loads.filterMap fun (id, ticket) =>
    if s.ticket? id = some ticket ∧ s.store.finished.any (·.1 == ticket) then some id else none
  ids.mergeSort fun a b => !decide (b < a)

end Session

end ConsoleNav.Store
