import ConsoleNav.Proofs.Service.Receiving
import ConsoleNav.Proofs.Store.SessionTurn
import ConsoleNav.Service.Session

/-!
Sessions with the service in turns of its store: nothing else is ever done to it.
-/
namespace ConsoleNav.Service

open Store

theorem receive_leads {app : App} (h : Ordered app.store) (r : Request) :
    Leads app.store (app.receive r).2.store := by
  have hreceived := received app r
  generalize app.receive r = result at hreceived
  cases hreceived with
  | @set _ menu _ => exact .single app.store (.set menu)
  | load => exact begin_leads h
  | refused | resolved | plain => exact .refl _

namespace Session

variable {s : Session}

theorem step_request (s : Session) (r : Request) :
    s.step (.request r) =
      { s with app := (s.app.receive r).2 }.finish (jobOf (s.app.receive r).1) := by
  rw [Session.step]

theorem step_start (s : Session) (id : String) (r : Request) :
    s.step (.start id r) =
      (.done, { s with
        app := { (s.app.receive r).2 with store := (s.app.receive r).2.store.settle },
        jobs := (id, jobOf (s.app.receive r).1) :: s.jobs }) := by
  rw [Session.step]
  generalize s.app.receive r = result
  rfl

theorem finish_leads (h : Ordered s.app.store) (job : Job) :
    Leads s.app.store (s.finish job).2.app.store := by
  cases job with
  | answered response => exact .refl _
  | request ticket | firstLoad ticket => exact (await_drifts ticket h).leads

theorem startLoad_leads (h : Ordered s.app.store) : Leads s.app.store s.startLoad.2.app.store :=
  (begin_leads h).trans (settle_drifts (h.leads (begin_leads h))).leads

theorem step_leads (h : Ordered s.app.store) (step : Step) :
    Leads s.app.store (s.step step).2.app.store := by
  cases step with
  | request r =>
    have hreceive := receive_leads h r
    rw [step_request]
    generalize s.app.receive r = result at hreceive ⊢
    exact hreceive.trans (finish_leads (s := { s with app := result.2 }) (h.leads hreceive) _)
  | start id r =>
    have hreceive := receive_leads h r
    rw [step_start]
    generalize s.app.receive r = result at hreceive ⊢
    exact hreceive.trans (settle_drifts (h.leads hreceive)).leads
  | join id =>
    simp only [step]
    split
    · exact .refl _
    · exact finish_leads h _
  | wait millis => exact (wait_drifts millis h).1.leads
  | firstLoad =>
    have hstart := startLoad_leads h
    exact hstart.trans (finish_leads (h.leads hstart) _)
  | startFirstLoad id => exact startLoad_leads h
  | describe => exact .refl _

/-- The session after some steps. -/
def after (s : Session) (steps : List Step) : Session :=
  steps.foldl (fun s step => (s.step step).2) s

theorem after_leads (h : Ordered s.app.store) (steps : List Step) :
    Leads s.app.store (s.after steps).app.store := by
  induction steps generalizing s with
  | nil => exact .refl _
  | cons step steps ih =>
    have hstep := step_leads h step
    exact hstep.trans (ih (h.leads hstep))

end Session

end ConsoleNav.Service
