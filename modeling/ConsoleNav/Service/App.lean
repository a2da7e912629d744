import ConsoleNav.Config.Basic
import ConsoleNav.Route.Wire
import ConsoleNav.Service.Body
import ConsoleNav.Service.Endpoint
import ConsoleNav.Store.Status
import ConsoleNav.Store.Time
import ConsoleNav.Text.Percent

/-!
The service: a menu store, a route table and a filter for it, and how requests are answered. A request to
load the menu is answered when the load has ended, every other one at once.
-/
namespace ConsoleNav

structure App where
  store : Store
  table : Route.Table := .builtIn
  filter : Route.FilterKind := .passThrough

namespace Service

/-- What a request comes to: a response, or a load whose answer becomes the response. -/
inductive Reply where
  | response (r : Response)
  | load (ticket : Nat)

def Reply.withoutBody : Reply → Reply
  | .response r => .response r.withoutBody
  | .load ticket => .load ticket

def faultCode : Store.LoadFault → Nat
  | .fetch (.timedOut _) => 504
  | .fetch _ => 502
  | .malformed _ => 422
  | .superseded => 409

def loadResponse : Store.Answer → Response
  | .ok snapshot => .value snapshot.menu
  | .error fault => .text (faultCode fault) fault.message

/-- The health of the service, which answers only while it is well. -/
def healthResponse : Response :=
  .json (.object [("status", .string "ok")])

/-- The path that a query asks to resolve, or why there is none. -/
def pathParameter (query : String) : Except String String :=
  match (Text.formMembers query).filter (·.1 == "path") with
  | [] => .error "missing field `path`"
  | [(_, path)] => .ok path
  | _ => .error "duplicate field `path`"

end Service

namespace App

open Service

def sourceOf [Address.Client] : Config.MenuOrigin → Store.Source
  | .builtIn => .builtIn none
  | .remote url retries => .remote (.ofAddress url retries.toNat) []

def ofConfig [Address.Client] (c : Config) : App where
  store := .fresh (sourceOf c.menuOrigin) c.loadTimeout.toNat
  filter := c.routeFilter

/-- The entry with an id in its escaped form. -/
def entryResponse (app : App) (id : String) : Response :=
  match Text.percentDecode? id with
  | none => .text 400 "Invalid URL: Invalid UTF-8 in `id`"
  | some id =>
    match app.store.find? id with
    | some e => .value e
    | none => .text 404 "Menu entry not found"

def setMenu (app : App) (r : Request) : Response × App :=
  match (r.read : Except BodyFault (List Menu.Entry)) with
  | .ok menu => (.empty 204, { app with store := (app.store.set menu).2 })
  | .error fault => (fault.response, app)

def filterResponse (app : App) (r : Request) : Response :=
  match (r.read : Except BodyFault (List Route.Permission)) with
  | .ok permissions => .value (app.filter.apply permissions app.table.records)
  | .error fault => fault.response

def resolvePath (app : App) (r : Request) : Response × App :=
  match pathParameter (Text.queryOf r.target) with
  | .error message => (.text 400 ("Failed to deserialize query string: " ++ message), app)
  | .ok path =>
    match app.table.resolve path with
    | (.ok m, table) => (.value m, { app with table })
    | (.error fault, table) => (.text 404 fault.message, { app with table })

def answer (app : App) (r : Request) : Endpoint → Reply × App
  | .health => (.response healthResponse, app)
  | .menu =>
    if r.method = "PUT" then
      let (response, app) := app.setMenu r
      (.response response, app)
    else (.response (.value app.store.snapshot.menu), app)
  | .load =>
    let (ticket, store) := app.store.begin
    (.load ticket, { app with store })
  | .status => (.response (.value app.store.status), app)
  | .entry id => (.response (app.entryResponse id), app)
  | .routes => (.response (.value app.table.records), app)
  | .filter => (.response (app.filterResponse r), app)
  | .resolve =>
    let (response, app) := app.resolvePath r
    (.response response, app)

def receive (app : App) (r : Request) : Reply × App :=
  match Endpoint.ofPath? (Text.pathOf r.target) with
  | none => (.response (.empty (if r.method = "OPTIONS" then 200 else 404)), app)
  | some e =>
    if r.method = "OPTIONS" then (.response { Response.empty 200 with allow := some e.allow }, app)
    else if e.methods.contains r.method then
      let (reply, app) := app.answer r e
      (if r.method = "HEAD" then reply.withoutBody else reply, app)
    else (.response { Response.empty 405 with allow := some e.allow }, app)

end App

end ConsoleNav
