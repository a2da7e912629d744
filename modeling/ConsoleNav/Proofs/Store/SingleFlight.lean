import ConsoleNav.Proofs.Store.Commit
import Mathlib.Data.List.Perm.Subperm
import Mathlib.Logic.Function.Basic

/-!
One load at a time. A load that waits for its source is woken only when the newest ticket has changed
since the load looked at it last. No load sleeps through the end of its turn to be the newest one: when
nobody has anything left to look at, one load at most is under way, and it has the newest ticket.
-/
namespace ConsoleNav.Store

/-- A shared store, and for the load with each ticket what it has last seen the newest ticket to be. -/
structure Watched where
  shared : Shared
  seen : Nat → Nat := fun _ => 0

inductive Happening where
  /-- Something happens. If a load is begun in it, that load has begun to watch the newest ticket when
  this was `since`, before it has drawn its own one. -/
  | event (e : Event) (since : Nat)
  /-- A pending load that has been woken looks at the newest ticket. -/
  | look (ticket : Nat)

namespace Watched

def fresh (source : Source) (timeout : Nat) : Watched where
  shared := .fresh source timeout

def newest (w : Watched) : Nat :=
  w.shared.store.generation

/-- Whether the newest ticket has changed since a load has looked at it. -/
def wakes (w : Watched) (l : Load) : Bool :=
  w.seen l.ticket != w.newest

/-- Every load has looked at the newest ticket, and none has a menu left to commit. -/
def IsIdle (w : Watched) : Prop :=
  w.shared.fetched = [] ∧ ∀ l ∈ w.shared.store.pending, w.wakes l = false

def step (w : Watched) : Happening → List Mark × Watched
  | .event e since =>
    let (marks, shared) := w.shared.step e
    (marks, { shared, seen := Function.update w.seen (w.newest + 1) (min since w.newest) })
  | .look ticket =>
    if w.newest = ticket then ([], { w with seen := Function.update w.seen ticket w.newest })
    else
      let (marks, shared) := w.shared.step (.supersede ticket)
      (marks, { w with shared })

def run (w : Watched) : List Happening → List Mark × Watched
  | [] => ([], w)
  | h :: hs =>
    let (marks, w) := w.step h
    let (later, w) := w.run hs
    (marks ++ later, w)

theorem run_append (w : Watched) (hs later : List Happening) :
    w.run (hs ++ later) =
      ((w.run hs).1 ++ ((w.run hs).2.run later).1, ((w.run hs).2.run later).2) := by
  induction hs generalizing w with
  | nil => rfl
  | cons h hs ih => simp [run, ih]

/-! ### What loads have seen -/

/-- The record of a run is true, and no pending load has seen a newer ticket than its own. -/
structure Attentive (marks : List Mark) (w : Watched) : Prop where
  recorded : Shared.Recorded marks w.shared
  unseen : ∀ l ∈ w.shared.store.pending, w.seen l.ticket ≤ l.ticket

variable {marks : List Mark} {w : Watched}

theorem attentive_fresh (source : Source) (timeout : Nat) : Attentive [] (fresh source timeout) where
  recorded := Shared.recorded_fresh source timeout
  unseen _ hl := absurd hl List.not_mem_nil

theorem Attentive.le_newest (h : Attentive marks w) {ticket : Nat}
    (hticket : ticket ∈ w.shared.tickets) : ticket ≤ w.newest :=
  h.recorded.le_generation (List.mem_append_left _ hticket)

theorem Attentive.pending_le_newest (h : Attentive marks w) {l : Load}
    (hl : l ∈ w.shared.store.pending) : l.ticket ≤ w.newest :=
  h.le_newest (List.mem_append_left _ (List.mem_map_of_mem hl))

theorem Attentive.event (h : Attentive marks w) (e : Event) (since : Nat) :
    Attentive (marks ++ (w.step (.event e since)).1) (w.step (.event e since)).2 where
  recorded := h.recorded.step e
  unseen l hl := by
    change Function.update w.seen (w.newest + 1) (min since w.newest) l.ticket ≤ l.ticket
    rcases Shared.pending_step w.shared e l hl with hold | ⟨-, hnew⟩
    · have hle := h.pending_le_newest hold
      rw [Function.update_of_ne (by omega)]
      exact h.unseen l hold
    · have hticket : l.ticket = w.newest + 1 := congrArg Load.ticket hnew
      rw [hticket, Function.update_self]
      omega

theorem Attentive.look (h : Attentive marks w) (ticket : Nat) :
    Attentive (marks ++ (w.step (.look ticket)).1) (w.step (.look ticket)).2 := by
  by_cases hnewest : w.newest = ticket
  · rw [step, if_pos hnewest, List.append_nil]
    refine ⟨h.recorded, fun l hl => ?_⟩
    change Function.update w.seen ticket w.newest l.ticket ≤ l.ticket
    by_cases hticket : l.ticket = ticket
    · rw [hticket, Function.update_self]
      exact Nat.le_of_eq hnewest
    · rw [Function.update_of_ne hticket]
      exact h.unseen l hl
  · rw [step, if_neg hnewest]
    refine ⟨h.recorded.step _, fun l hl => ?_⟩
    rcases Shared.pending_step w.shared _ l hl with hold | ⟨hbegin, -⟩
    · exact h.unseen l hold
    · cases hbegin

theorem Attentive.run (h : Attentive marks w) (hs : List Happening) :
    Attentive (marks ++ (w.run hs).1) (w.run hs).2 := by
  induction hs generalizing marks w with
  | nil => simpa [Watched.run] using h
  | cons happening hs ih =>
      have hstep : Attentive (marks ++ (w.step happening).1) (w.step happening).2 := by
        cases happening with
        | event e since => exact h.event e since
        | look ticket => exact h.look ticket
      simpa [Watched.run] using ih hstep

theorem attentive_run (source : Source) (timeout : Nat) (hs : List Happening) :
    Attentive ((fresh source timeout).run hs).1 ((fresh source timeout).run hs).2 :=
  (attentive_fresh source timeout).run hs

/-- A load whose ticket is not the newest one any more is woken, and ends when it looks. -/
theorem Attentive.wakes_of_older (h : Attentive marks w) {l : Load}
    (hl : l ∈ w.shared.store.pending) (holder : l.ticket ≠ w.newest) :
    w.wakes l = true ∧
      (w.step (.look l.ticket)).1 = [.returned l.ticket (.error .superseded)] := by
  have hunseen := h.unseen l hl
  have hle := h.pending_le_newest hl
  constructor
  · rw [wakes, bne_iff_ne]
    omega
  · have hdistinct := (List.nodup_append'.mp h.recorded.once).1
    have hfind : w.shared.pending? l.ticket = some l := find?_of_nodup hdistinct hl
    have hnewer : w.newest ≠ l.ticket := holder.symm
    have hfails : w.shared.step (.supersede l.ticket) = w.shared.fail l .superseded := by
      simp only [Shared.step, hfind]
      exact if_pos hnewer
    rw [step, if_neg hnewer, hfails]
    rfl

theorem Attentive.newest_of_isIdle (h : Attentive marks w) (hidle : w.IsIdle) :
    ∀ ticket ∈ w.shared.tickets, ticket = w.newest := by
  intro ticket hticket
  rw [Shared.tickets, hidle.1, List.map_nil, List.append_nil] at hticket
  obtain ⟨l, hl, rfl⟩ := List.mem_map.mp hticket
  by_contra holder
  have hwakes := (h.wakes_of_older hl holder).1
  rw [hidle.2 l hl] at hwakes
  cases hwakes

theorem Attentive.length_tickets_le (h : Attentive marks w) (hidle : w.IsIdle) :
    w.shared.tickets.length ≤ 1 := by
  have hdistinct : w.shared.tickets.Nodup := (List.nodup_append'.mp h.recorded.nodup).1
  have hsame : w.shared.tickets ⊆ [w.newest] := by
    intro ticket hticket
    exact List.mem_singleton.mpr (h.newest_of_isIdle hidle ticket hticket)
  exact (List.Nodup.subperm hdistinct hsame).length_le

theorem Attentive.closed_of_older (h : Attentive marks w) (hidle : w.IsIdle) {ticket : Nat}
    (hdrawn : ticket ∈ Shared.drawn marks) (holder : ticket < w.newest) :
    ticket ∈ Shared.closed marks := by
  rw [← h.recorded.ledger.mem_iff, List.mem_append] at hdrawn
  refine hdrawn.resolve_left fun hopen => ?_
  exact absurd (h.newest_of_isIdle hidle ticket hopen) (Nat.ne_of_lt holder)

/-- Whoever is over stays over. -/
theorem Attentive.over (h : Attentive marks w) {ticket : Nat}
    (hclosed : ticket ∈ Shared.closed marks) (later : List Happening) :
    ticket ∉ (w.run later).2.shared.tickets ∧
      ∀ c ∈ Shared.commits (w.run later).1, c.1 ≠ ticket := by
  have hnodup := (h.run later).recorded.nodup
  rw [Shared.closed, List.filterMap_append] at hnodup
  have hdisjoint := (List.nodup_append'.mp hnodup).2.2
  have honce := (List.nodup_append'.mp (List.nodup_append'.mp hnodup).2.1).2.2
  constructor
  · exact fun hopen => hdisjoint hopen (List.mem_append_left _ hclosed)
  · rintro ⟨other, snapshot⟩ hc rfl
    exact honce hclosed (Shared.closed_of_commit hc)

/-! ### Sessions -/

theorem run_events (w : Watched) (events : List Event) :
    (w.run (events.map fun e => .event e 0)).2.shared = (w.shared.run events).2 := by
  induction events generalizing w with
  | nil => rfl
  | cons e events ih => exact ih _

theorem leads_of_shared {source : Source} {timeout : Nat} {b : Shared}
    (h : Shared.Leads (.fresh source timeout) b) :
    ∃ hs, ((fresh source timeout).run hs).2.shared = b := by
  obtain ⟨events, rfl⟩ := h
  exact ⟨_, run_events (fresh source timeout) events⟩

/-- Once a quiet store has been looked at, nobody in it has anything left to look at. -/
theorem isIdle_of_isQuiet {s : Store} (hshared : w.shared = ⟨s, []⟩) (hquiet : s.isQuiet) :
    (w.step (.look w.newest)).2.IsIdle ∧ (w.step (.look w.newest)).2.shared = ⟨s, []⟩ := by
  have hnewest : w.newest = s.generation := by rw [newest, hshared]
  rw [step, if_pos rfl]
  refine ⟨⟨by rw [hshared], fun l hl => ?_⟩, hshared⟩
  have hticket : s.generation = l.ticket := by
    rw [hshared] at hl
    exact (isQuiet_iff.mp hquiet l hl).1
  simp [wakes, newest, hshared, hticket]

end Watched

def Step.settles : Step → Bool
  | .start _ | .wait _ => true
  | _ => false

theorem isQuiet_of_settles {s : Session} (h : Ordered s.store) {step : Step}
    (hsettles : step.settles = true) : (s.step step).2.store.isQuiet := by
  cases step with
  | start id => exact settle_isQuiet _
  | wait millis => exact (wait_drifts millis h).2.1
  | set | load | join | abort | state | find | draw | hold | held => cases hsettles

namespace Watched

/-- Single flight. -/
theorem single_flight (source : Source) (timeout : Nat) :
    (∀ steps step,
      let s := Session.after ⟨.fresh source timeout, [], []⟩ steps
      ∃ hs, ((fresh source timeout).run hs).2.shared = ⟨(s.step step).2.store, []⟩ ∧
        (step.settles = true → ((fresh source timeout).run hs).2.IsIdle)) ∧
    ∀ hs,
      let marks := ((fresh source timeout).run hs).1
      let w := ((fresh source timeout).run hs).2
      (w.IsIdle →
        w.shared.tickets.length ≤ 1 ∧ (∀ ticket ∈ w.shared.tickets, ticket = w.newest) ∧
          ∀ ticket ∈ Shared.drawn marks, ticket < w.newest → ticket ∈ Shared.closed marks) ∧
      (∀ l ∈ w.shared.store.pending, l.ticket ≠ w.newest →
        w.wakes l = true ∧
          (w.step (.look l.ticket)).1 = [.returned l.ticket (.error .superseded)]) ∧
      ∀ ticket ∈ Shared.closed marks, ∀ later,
        ticket ∉ (w.run later).2.shared.tickets ∧
          ∀ c ∈ Shared.commits (w.run later).1, c.1 ≠ ticket := by
  refine ⟨fun steps step => ?_, fun hs => ?_⟩
  · intro s
    have hfresh : Ordered (Store.fresh source timeout) := ordered_fresh source timeout
    have hafter : Leads (.fresh source timeout) s.store :=
      after_leads (s := ⟨.fresh source timeout, [], []⟩) hfresh steps
    have hordered : Ordered s.store := hfresh.leads hafter
    have hleads := hafter.trans (step_leads hordered step)
    obtain ⟨hs, hshared⟩ := leads_of_shared (Shared.leads_of_turns hfresh hleads)
    by_cases hsettles : step.settles = true
    · have hidle := isIdle_of_isQuiet hshared (isQuiet_of_settles hordered hsettles)
      refine ⟨hs ++ [.look ((fresh source timeout).run hs).2.newest], ?_, fun _ => ?_⟩
      · rw [run_append]
        exact hidle.2
      · rw [run_append]
        exact hidle.1
    · exact ⟨hs, hshared, fun h => absurd h hsettles⟩
  · intro marks w
    have h : Attentive marks w := attentive_run source timeout hs
    refine ⟨fun hidle => ?_, fun l hl holder => h.wakes_of_older hl holder, ?_⟩
    · refine ⟨h.length_tickets_le hidle, h.newest_of_isIdle hidle, ?_⟩
      exact fun ticket hdrawn holder => h.closed_of_older hidle hdrawn holder
    · exact fun ticket hclosed later => h.over hclosed later

end Watched

end ConsoleNav.Store
