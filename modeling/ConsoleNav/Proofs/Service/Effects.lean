import ConsoleNav.Proofs.Service.Running
import ConsoleNav.Proofs.Store.Commit
import ConsoleNav.Proofs.Store.Undisturbed

/-!
What requests do to the service. A request that is refused does nothing at all, and a load that is not
answered with its menu has drawn a ticket and nothing else.
-/
namespace ConsoleNav

namespace Store

end Store

namespace Service

open Store

theorem faultCode_mem (fault : LoadFault) : faultCode fault ∈ [409, 422, 502, 504] := by
  rcases fault with (_ | _ | _ | _) | _ | _
  all_goals simp [faultCode]

theorem BodyFault.code_mem (fault : BodyFault) : fault.code ∈ [400, 413, 415, 422] := by
  cases fault with
  | notJson | tooLong => decide
  | unreadable fault =>
    rw [BodyFault.code]
    cases fault.cause.category with
    | data | form | ending => decide

theorem receive_load {app : App} {r : Request} (h : r.loadsMenu) :
    app.receive r = (.load app.store.begin.1, { app with store := app.store.begin.2 }) := by
  have hreceived := received app r
  generalize app.receive r = result at hreceived
  cases hreceived with
  | set asked | refused asked => exact absurd asked (Request.not_setsMenu_of_loadsMenu h)
  | resolved asked => exact absurd h (Request.not_loadsMenu_of_resolvesPath asked)
  | plain notSet notLoad => exact absurd h notLoad
  | load => rfl

theorem receive_other (app : App) {r : Request} (h : ¬ r.loadsMenu) :
    ∃ response, (app.receive r).1 = .response response := by
  have hreceived := received app r
  generalize app.receive r = result at hreceived
  cases hreceived with
  | load asked => exact absurd asked h
  | set | refused | resolved | plain => exact ⟨_, rfl⟩

theorem receive_store (app : App) (r : Request) :
    (app.receive r).2.store = app.store ∨
      (r.setsMenu ∧ (app.receive r).1 = .response (.empty 204) ∧
        ∃ menu, r.menu? = .ok menu ∧ (app.receive r).2.store = (app.store.set menu).2) ∨
      (r.loadsMenu ∧ (app.receive r).1 = .load (app.store.generation + 1) ∧
        (app.receive r).2.store = app.store.begin.2) := by
  have hreceived := received app r
  generalize app.receive r = result at hreceived
  cases hreceived with
  | set asked body => exact .inr (.inl ⟨asked, rfl, _, body, rfl⟩)
  | load asked => exact .inr (.inr ⟨asked, rfl, rfl⟩)
  | refused | resolved | plain => exact .inl rfl

namespace Session

variable {s : Session} {r : Request}

theorem step_load (h : r.loadsMenu) :
    s.step (.request r) = (responseOf s.app.store.load.1, s.withStore s.app.store.load.2) := by
  rw [step_request, receive_load h]
  rfl

end Session

end Service

end ConsoleNav
