import ConsoleNav.Proofs.Service.Addressing
import ConsoleNav.Service.App

/-!
What can come of a request. Three kinds of requests do something: those that replace the menu, those that
load it, and those that resolve a path.
-/
namespace ConsoleNav.Service

namespace Request

def readsMenu (r : Request) : Prop :=
  r.method = "GET" ∧ Text.pathOf r.target = "/api/v1/menus"

def setsMenu (r : Request) : Prop :=
  r.method = "PUT" ∧ Text.pathOf r.target = "/api/v1/menus"

def loadsMenu (r : Request) : Prop :=
  r.method = "POST" ∧ Text.pathOf r.target = "/api/v1/menus/load"

def resolvesPath (r : Request) : Prop :=
  (r.method = "GET" ∨ r.method = "HEAD") ∧ Text.pathOf r.target = "/api/v1/routes/resolve"

def menu? (r : Request) : Except BodyFault (List Menu.Entry) :=
  r.read

/-- A response as the one who has asked gets it. -/
def trim (r : Request) (response : Response) : Response :=
  if r.method = "HEAD" then response.withoutBody else response

theorem trim_code (r : Request) (response : Response) : (r.trim response).code = response.code := by
  unfold trim
  split
  · rfl
  · rfl

theorem trim_reply (r : Request) (response : Response) :
    (if r.method = "HEAD" then (Reply.response response).withoutBody else .response response) =
      .response (r.trim response) := by
  unfold trim
  split
  · rfl
  · rfl

theorem not_setsMenu_of_loadsMenu {r : Request} (h : r.loadsMenu) : ¬ r.setsMenu := by
  rintro ⟨hmethod, -⟩
  exact absurd (h.1.symm.trans hmethod) (by decide)

theorem not_loadsMenu_of_resolvesPath {r : Request} (h : r.resolvesPath) : ¬ r.loadsMenu := by
  rintro ⟨hmethod, -⟩
  rcases h.1 with hother | hother
  · exact absurd (hother.symm.trans hmethod) (by decide)
  · exact absurd (hother.symm.trans hmethod) (by decide)

theorem not_setsMenu_of_resolvesPath {r : Request} (h : r.resolvesPath) : ¬ r.setsMenu := by
  rintro ⟨hmethod, -⟩
  rcases h.1 with hother | hother
  · exact absurd (hother.symm.trans hmethod) (by decide)
  · exact absurd (hother.symm.trans hmethod) (by decide)

end Request

theorem receive_menu (app : App) {r : Request} (h : r.readsMenu) :
    app.receive r = (.response (.value app.store.snapshot.menu), app) := by
  have hendpoint : Endpoint.ofPath? (Text.pathOf r.target) = some .menu := by
    rw [h.2]
    decide
  simp [App.receive, hendpoint, h.1, App.answer, Endpoint.methods]

inductive Received (app : App) (r : Request) : Reply × App → Prop
  | set (asked : r.setsMenu) {menu : List Menu.Entry} (body : r.menu? = .ok menu) :
      Received app r
        (.response (.empty 204), { app with store := (app.store.set menu).2 })
  | refused (asked : r.setsMenu) {fault : BodyFault} (body : r.menu? = .error fault) :
      Received app r (.response fault.response, app)
  | load (asked : r.loadsMenu) :
      Received app r (.load app.store.begin.1, { app with store := app.store.begin.2 })
  | resolved (asked : r.resolvesPath) {response : Response} (answered : response.code = 200)
      (table : Route.Table) : Received app r (.response response, { app with table })
  | plain (notSet : ¬ r.setsMenu) (notLoad : ¬ r.loadsMenu) (response : Response) :
      Received app r (.response response, app)

variable {app : App} {r : Request} {e : Endpoint}

theorem endpoint_of_setsMenu (h : r.setsMenu) :
    Endpoint.ofPath? (Text.pathOf r.target) = some .menu := by
  rw [h.2]
  decide

theorem endpoint_of_loadsMenu (h : r.loadsMenu) :
    Endpoint.ofPath? (Text.pathOf r.target) = some .load := by
  rw [h.2]
  decide

theorem received_plain (h : ∀ e, Endpoint.ofPath? (Text.pathOf r.target) = some e →
      (e = .menu → r.method ≠ "PUT") ∧ (e = .load → r.method ≠ "POST")) (response : Response) :
    Received app r (.response response, app) := by
  refine .plain ?_ ?_ response
  · intro hset
    exact (h _ (endpoint_of_setsMenu hset)).1 rfl hset.1
  · intro hload
    exact (h _ (endpoint_of_loadsMenu hload)).2 rfl hload.1

section Answered

variable (hendpoint : Endpoint.ofPath? (Text.pathOf r.target) = some e)

include hendpoint

theorem received_read (hset : e = .menu → r.method ≠ "PUT") (hload : e ≠ .load)
    (response : Response) : Received app r (.response response, app) := by
  refine received_plain (fun other hother => ?_) response
  cases hendpoint.symm.trans hother
  exact ⟨hset, fun h => absurd h hload⟩

theorem received_resolve (he : e = .resolve) (hmethod : e.methods.contains r.method) :
    Received app r (.response (r.trim (app.resolvePath r).1), (app.resolvePath r).2) := by
  subst he
  have hread (response : Response) : Received app r (.response response, app) :=
    received_read hendpoint nofun nofun response
  have hpath : Text.pathOf r.target = "/api/v1/routes/resolve" :=
    (Endpoint.eq_path hendpoint).trans (by decide)
  unfold App.resolvePath
  cases pathParameter (Text.queryOf r.target) with
  | error message => exact hread _
  | ok path =>
    dsimp only
    unfold Route.Table.resolve
    cases app.table.hit? path with
    | none => exact hread _
    | some hit => exact .resolved ⟨by simpa [Endpoint.methods] using hmethod, hpath⟩ (r.trim_code _) _

theorem received_menu (he : e = .menu) :
    Received app r (if r.method = "PUT" then (.response (app.setMenu r).1, (app.setMenu r).2)
      else (.response (r.trim (.value app.store.snapshot.menu)), app)) := by
  subst he
  have hpath : Text.pathOf r.target = "/api/v1/menus" :=
    (Endpoint.eq_path hendpoint).trans (by decide)
  split
  · rename_i hput
    unfold App.setMenu
    cases hbody : r.menu? with
    | ok menu =>
      rw [Request.menu?] at hbody
      rw [hbody]
      exact .set ⟨hput, hpath⟩ hbody
    | error fault =>
      rw [Request.menu?] at hbody
      rw [hbody]
      exact .refused ⟨hput, hpath⟩ hbody
  · rename_i hput
    exact received_read hendpoint (fun _ => hput) nofun _

theorem received_answer (hmethod : e.methods.contains r.method) :
    Received app r (if r.method = "HEAD" then (app.answer r e).1.withoutBody else (app.answer r e).1,
      (app.answer r e).2) := by
  cases e with
  | menu =>
    have hmenu : Received app r _ := received_menu hendpoint rfl
    unfold App.answer
    split at hmenu
    · rename_i hput
      rw [if_pos hput, if_neg (by simp [hput])]
      exact hmenu
    · rename_i hput
      rw [if_neg hput, r.trim_reply]
      exact hmenu
  | load =>
    have hpost : r.method = "POST" := by simpa [Endpoint.methods] using hmethod
    have hpath : Text.pathOf r.target = "/api/v1/menus/load" :=
      (Endpoint.eq_path hendpoint).trans (by decide)
    rw [if_neg (by simp [hpost]), App.answer]
    exact .load ⟨hpost, hpath⟩
  | resolve =>
    simp only [App.answer]
    rw [r.trim_reply]
    exact received_resolve hendpoint rfl hmethod
  | health | status | entry | routes | filter =>
    unfold App.answer
    rw [r.trim_reply]
    exact received_read hendpoint nofun nofun _

end Answered

/-- A request does something only at one of three endpoints, and by the one method for it. -/
theorem received (app : App) (r : Request) : Received app r (app.receive r) := by
  unfold App.receive
  cases hendpoint : Endpoint.ofPath? (Text.pathOf r.target) with
  | none =>
    refine received_plain (fun e he => ?_) _
    rw [hendpoint] at he
    cases he
  | some e =>
    dsimp only
    split
    · rename_i hoptions
      exact received_plain (fun _ _ => by simp [hoptions]) _
    · split
      · rename_i hmethod
        exact received_answer hendpoint hmethod
      · rename_i hmethod
        refine received_plain (fun other hother => ?_) _
        cases hendpoint.symm.trans hother
        constructor
        · rintro rfl hput
          exact hmethod (by simp [Endpoint.methods, hput])
        · rintro rfl hpost
          exact hmethod (by simp [Endpoint.methods, hpost])

end ConsoleNav.Service
