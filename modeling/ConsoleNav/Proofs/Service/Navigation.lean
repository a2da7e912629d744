import ConsoleNav.Proofs.Route.MatchText
import ConsoleNav.Proofs.Route.RoundTrip
import ConsoleNav.Proofs.Service.Running
import ConsoleNav.Proofs.Text.Forms

/-!
Paths resolved by the service: a path is asked for in the query of the address, written as the value of a
form. The table of a service stays the one it began with but for the views that are located, so that what
has been asked before has no effect on the answer.
-/
namespace ConsoleNav.Service

open Json Route

section Asking

/-- The target that asks to resolve a path. -/
def resolveTarget (path : String) : String :=
  "/api/v1/routes/resolve?path=" ++ String.ofList (Text.formEncode path)

theorem resolveTarget_eq (path : String) : resolveTarget path =
    String.ofList ('/' :: ("api/v1/routes/resolve".toList ++
      '?' :: (Text.formEncode "path" ++ '=' :: Text.formEncode path))) := by
  have hname : Text.formEncode "path" = ['p', 'a', 't', 'h'] := by
    simp [Text.formEncode, Text.escapeWhere, Text.isFormChar]
  unfold resolveTarget
  generalize Text.formEncode path = value
  rw [← String.toList_inj, hname]
  simp

theorem pathOf_resolveTarget (path : String) :
    Text.pathOf (resolveTarget path) = "/api/v1/routes/resolve" := by
  rw [resolveTarget_eq, Text.pathOf_query (by decide) (by decide)]
  decide

theorem pathParameter_resolveTarget (path : String) :
    pathParameter (Text.queryOf (resolveTarget path)) = .ok path := by
  have hend : '#' ∉ Text.formEncode "path" ++ '=' :: Text.formEncode path := by
    rw [List.mem_append, List.mem_cons, not_or, not_or]
    exact ⟨Text.not_mem_formEncode (by decide) _, by decide, Text.not_mem_formEncode (by decide) _⟩
  rw [resolveTarget_eq, Text.queryOf_query (by decide) (by decide) hend, pathParameter,
    Text.formMembers_formEncode]
  rfl

/-- The response for what comes of resolving a path. -/
def navigationResponse : Except NotFound RouteMatch → Response
  | .ok m => .value m
  | .error fault => .text 404 fault.message

theorem receive_resolve (app : App) {r : Request} {path : String} (hget : r.method = "GET")
    (htarget : r.target = resolveTarget path) :
    (app.receive r).1 = .response (navigationResponse (app.table.resolve path).1) := by
  have hendpoint : Endpoint.ofPath? (Text.pathOf r.target) = some .resolve := by
    rw [htarget, pathOf_resolveTarget]
    decide
  have hparameter : pathParameter (Text.queryOf r.target) = .ok path := by
    rw [htarget]
    exact pathParameter_resolveTarget path
  simp only [App.receive, hendpoint, hget, Endpoint.methods, App.answer, App.resolvePath, hparameter]
  rcases app.table.resolve path with ⟨m | fault, table⟩
  · rfl
  · rfl

end Asking

section Tables

theorem unresolved_resolve (t : Table) (path : String) : (t.resolve path).2.unresolved = t.unresolved :=
  t.unresolved_step (.resolve path)

theorem resolvePath_unresolved (app : App) (r : Request) :
    (app.resolvePath r).2.table.unresolved = app.table.unresolved := by
  unfold App.resolvePath
  cases pathParameter (Text.queryOf r.target) with
  | error message => rfl
  | ok path =>
    have hresolve := unresolved_resolve app.table path
    dsimp only
    generalize app.table.resolve path = result at hresolve ⊢
    rcases result with ⟨m | fault, table⟩
    · exact hresolve
    · exact hresolve

theorem answer_unresolved (app : App) (r : Request) (e : Endpoint) :
    (app.answer r e).2.table.unresolved = app.table.unresolved := by
  cases e with
  | resolve =>
    have hresolve := resolvePath_unresolved app r
    unfold App.answer
    generalize app.resolvePath r = result at hresolve ⊢
    exact hresolve
  | menu =>
    simp only [App.answer, App.setMenu]
    split
    · cases (r.read : Except BodyFault (List Menu.Entry)) with
      | ok | error => rfl
    · rfl
  | health | load | status | entry | routes | filter => rfl

theorem receive_unresolved (app : App) (r : Request) :
    (app.receive r).2.table.unresolved = app.table.unresolved := by
  unfold App.receive
  split
  · rfl
  · next e _ =>
    split
    · rfl
    · split
      · exact answer_unresolved app r e
      · rfl

namespace Session

theorem finish_table (s : Session) (job : Job) : (s.finish job).2.app.table = s.app.table := by
  cases job with
  | answered | request | firstLoad => rfl

theorem startLoad_table (s : Session) : s.startLoad.2.app.table = s.app.table := rfl

theorem step_unresolved (s : Session) (step : Service.Step) :
    (s.step step).2.app.table.unresolved = s.app.table.unresolved := by
  cases step with
  | request r =>
    have hreceive := receive_unresolved s.app r
    rw [step_request, finish_table]
    generalize s.app.receive r = result at hreceive ⊢
    exact hreceive
  | start id r =>
    have hreceive := receive_unresolved s.app r
    rw [step_start]
    generalize s.app.receive r = result at hreceive ⊢
    exact hreceive
  | join id =>
    simp only [Session.step]
    split
    · rfl
    · rw [finish_table]
  | firstLoad => simp only [Session.step, finish_table, startLoad_table]
  | startFirstLoad id => simp only [Session.step, startLoad_table]
  | wait millis => simp only [Session.step, withStore]
  | describe => simp only [Session.step]

theorem after_unresolved (s : Session) (steps : List Service.Step) :
    (s.after steps).app.table.unresolved = s.app.table.unresolved := by
  induction steps generalizing s with
  | nil => rfl
  | cons step steps ih => exact (ih _).trans (step_unresolved s step)

end Session

/-- Whatever has been asked of a service, it resolves paths as it did at its beginning. -/
theorem resolve_after (s : Session) (steps : List Service.Step) (path : String) :
    ((s.after steps).app.table.resolve path).1 = (s.app.table.resolve path).1 := by
  have hsame : same (s.after steps).app.table.records s.app.table.records = true :=
    (same_iff _ _).mpr (congrArg Table.records (s.after_unresolved steps))
  exact (answers_of_same hsame [] []).1 path

end Tables

end ConsoleNav.Service
