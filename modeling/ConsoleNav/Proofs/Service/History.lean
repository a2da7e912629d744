import ConsoleNav.Proofs.Service.Effects

/-!
The history of the service: requests are answered one at a time, while the loads that some of them have
begun go on in any order and end when they will. What has come about is put down fact by fact, and each
fact tells whether it has made a menu the current one.
-/
namespace ConsoleNav.Service

open Store

/-- The service together with its loads at work. -/
structure Served where
  shared : Shared
  table : Route.Table
  filter : Route.FilterKind

/-- What somebody wants of the service: an answer to a request, or its first load. -/
inductive Demand where
  | request (r : Request)
  | firstLoad

inductive Fact where
  | answered (r : Request) (response : Response)
  /-- The answer to a demand is the one of the load with a ticket. -/
  | asked (d : Demand) (ticket : Nat)
  /-- The source of a load has set the menu. -/
  | wrote (menu : List Menu.Entry)
  | mark (m : Mark)

namespace Fact

instance (r : Request) : Decidable r.setsMenu :=
  inferInstanceAs (Decidable (_ ∧ _))

/-- The menu that a fact makes the current one: that of a request to replace it which is answered with
204, that of a load which has returned with it, or one that a source has set. -/
def commit? : Fact → Option (List Menu.Entry)
  | .answered r response => if r.setsMenu ∧ response.code = 204 then r.menu?.toOption else none
  | .wrote menu => some menu
  | .mark (.returned _ (.ok snapshot)) => some snapshot.menu
  | .mark _ | .asked _ _ => none

def demand? : Fact → Option Demand
  | .answered r _ => some (.request r)
  | .asked d _ => some d
  | .wrote _ | .mark _ => none

def ticket? : Fact → Option Nat
  | .asked _ ticket => some ticket
  | .answered _ _ | .wrote _ | .mark _ => none

def mark? : Fact → Option Mark
  | .mark m => some m
  | .answered _ _ | .asked _ _ | .wrote _ => none

end Fact

def commits (facts : List Fact) : List (List Menu.Entry) :=
  facts.filterMap Fact.commit?

def demands (facts : List Fact) : List Demand :=
  facts.filterMap Fact.demand?

/-- The tickets of the loads that have been begun, in their order. -/
def tickets (facts : List Fact) : List Nat :=
  facts.filterMap Fact.ticket?

namespace Served

def ofApp (app : App) : Served :=
  ⟨⟨app.store, []⟩, app.table, app.filter⟩

def app (v : Served) : App :=
  ⟨v.shared.store, v.table, v.filter⟩

def withApp (v : Served) (app : App) : Served :=
  ⟨{ v.shared with store := app.store }, app.table, app.filter⟩

def happen (v : Served) (e : Event) : Served :=
  { v with shared := (v.shared.step e).2 }

/-- What happens to the service at once, and the facts it leaves: a request is answered or begins a load,
the first load begins, or a load at work goes on. -/
inductive Happens (v : Served) : List Fact → Served → Prop
  | answered {r : Request} {response : Response} {app : App}
      (received : v.app.receive r = (.response response, app)) :
      Happens v [.answered r response] (v.withApp app)
  | asked {r : Request} {ticket : Nat} {app : App}
      (received : v.app.receive r = (.load ticket, app)) :
      Happens v [.asked (.request r) ticket] (v.happen .begin)
  | firstLoad : Happens v [.asked .firstLoad v.shared.store.begin.1] (v.happen .begin)
  | wrote {menu : List Menu.Entry} (inner : Event.isInner v.shared (.set menu)) :
      Happens v [.wrote menu] (v.happen (.set menu))
  | event {e : Event} (undrawn : e.draws = false) (inner : e.isInner v.shared) :
      Happens v ((v.shared.step e).1.map .mark) (v.happen e)

/-- One service comes from another one while some facts come about. -/
inductive Comes : Served → List Fact → Served → Prop
  | refl (v : Served) : Comes v [] v
  | step {u v w : Served} {facts new : List Fact} (earlier : Comes u facts v)
      (last : Happens v new w) : Comes u (facts ++ new) w

theorem Comes.single {v w : Served} {new : List Fact} (h : Happens v new w) : Comes v new w :=
  .step (.refl v) h

theorem Comes.trans {u v w : Served} {facts new : List Fact} (huv : Comes u facts v)
    (hvw : Comes v new w) : Comes u (facts ++ new) w := by
  induction hvw with
  | refl =>
    rw [List.append_nil]
    exact huv
  | step earlier last ih =>
    rw [← List.append_assoc]
    exact .step ih last

/-- What has happened, as far as menus and loads are concerned. -/
inductive Happened (v : Served) : List Fact → Served → Prop
  | replaced {r : Request} {menu : List Menu.Entry} (asked : r.setsMenu)
      (body : r.menu? = .ok menu) :
      Happened v [.answered r (.empty 204)] (v.happen (.set menu))
  | refused {r : Request} {fault : BodyFault} (asked : r.setsMenu)
      (body : r.menu? = .error fault) :
      Happened v [.answered r fault.response] v
  | answered {r : Request} {response : Response} (table : Route.Table) (notSet : ¬ r.setsMenu)
      (notLoad : ¬ r.loadsMenu)
      (read : r.readsMenu → response = .value v.shared.store.snapshot.menu) :
      Happened v [.answered r response] { v with table }
  | begun {d : Demand} (loads : ∀ r, d = .request r → r.loadsMenu) :
      Happened v [.asked d (v.shared.store.generation + 1)] (v.happen .begin)
  | wrote {menu : List Menu.Entry} (inner : Event.isInner v.shared (.set menu)) :
      Happened v [.wrote menu] (v.happen (.set menu))
  | event {e : Event} (undrawn : e.draws = false) (inner : e.isInner v.shared) :
      Happened v ((v.shared.step e).1.map .mark) (v.happen e)

variable {v w : Served} {new : List Fact}

theorem happened_answered {r : Request} {response : Response} {app : App}
    (h : v.app.receive r = (.response response, app)) :
    Happened v [.answered r response] (v.withApp app) := by
  have hreceived := received v.app r
  have hread := fun hr => receive_menu v.app (r := r) hr
  rw [h] at hreceived hread
  cases hreceived with
  | set asked body => exact .replaced asked body
  | refused asked body => exact .refused asked body
  | resolved asked answered table =>
    refine .answered table (Request.not_setsMenu_of_resolvesPath asked)
      (Request.not_loadsMenu_of_resolvesPath asked) fun hr => ?_
    cases hread hr
    rfl
  | plain notSet notLoad =>
    refine .answered v.table notSet notLoad fun hr => ?_
    cases hread hr
    rfl

theorem Happens.happened (h : Happens v new w) : Happened v new w := by
  cases h with
  | answered received => exact happened_answered received
  | @asked r ticket app hreceive =>
    have hreceived := received v.app r
    rw [hreceive] at hreceived
    cases hreceived with
    | load asked =>
      refine .begun fun other hother => ?_
      cases hother
      exact asked
  | firstLoad => exact .begun nofun
  | wrote inner => exact .wrote inner
  | event undrawn inner => exact .event undrawn inner

end Served

end ConsoleNav.Service
