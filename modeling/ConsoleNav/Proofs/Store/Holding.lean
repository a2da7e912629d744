import ConsoleNav.Proofs.Menu.Lookup
import ConsoleNav.Proofs.Store.SingleFlight

/-!
What a store says about itself, and the snapshots that somebody has kept of it. Both are read off the
commits of a run: their number is the serial number of the current snapshot, so that two snapshots of one
run are the same one if and only if nothing has been committed between them.
-/
namespace ConsoleNav.Store

namespace Shared

theorem commits_append (marks later : List Mark) :
    commits (marks ++ later) = commits marks ++ commits later :=
  List.filterMap_append

/-- One event: either it leaves the snapshot alone, or it makes a new one in one commit. -/
theorem snapshot_step (b : Shared) (e : Event) :
    commits (b.step e).1 = [] ∧ (b.step e).2.store.snapshot = b.store.snapshot ∨
      ∃ ticket menu, commits (b.step e).1 = [(ticket, (b.step e).2.store.snapshot)] ∧
        (b.step e).2.store.snapshot = (b.store.commit menu).1 := by
  rcases step_cases b e with
    hnone | ⟨menu, rfl, -, hend⟩ | ⟨l, menu, rfl, -, hmarks, -, hend⟩
  · exact .inl hnone
  · exact .inr ⟨_, menu, rfl, hend⟩
  · refine .inr ⟨(b.step (.commit l.ticket)).2.store.generation, menu, ?_, hend⟩
    rw [hmarks, hend]
    rfl

theorem serial_run (b : Shared) (events : List Event) :
    (b.run events).2.store.snapshot.serial =
      b.store.snapshot.serial + (commits (b.run events).1).length := by
  induction events generalizing b with
  | nil => rfl
  | cons e events ih =>
    rw [run, commits_append, List.length_append, ih]
    rcases snapshot_step b e with ⟨hnone, hsame⟩ | ⟨ticket, menu, hone, hnew⟩
    · rw [hnone, hsame, List.length_nil]
      omega
    · rw [hone, hnew, List.length_singleton]
      show b.store.snapshot.serial + 1 + _ = _
      omega

theorem snapshot_run (b : Shared) {events : List Event} (h : commits (b.run events).1 = []) :
    (b.run events).2.store.snapshot = b.store.snapshot := by
  induction events generalizing b with
  | nil => rfl
  | cons e events ih =>
    rw [run, commits_append, List.append_eq_nil_iff] at h
    rw [run, ih _ h.2]
    rcases snapshot_step b e with ⟨-, hsame⟩ | ⟨ticket, menu, hone, -⟩
    · exact hsame
    · rw [h.1] at hone
      cases hone

/-- Whether there has been a commit is to be seen from the snapshot, as the time of the last one. -/
theorem loadedAt_run (b : Shared) (events : List Event) :
    (b.run events).2.store.snapshot.loadedAt.isSome ↔
      b.store.snapshot.loadedAt.isSome ∨ commits (b.run events).1 ≠ [] := by
  induction events generalizing b with
  | nil => exact ⟨.inl, fun h => h.resolve_right fun hsome => hsome rfl⟩
  | cons e events ih =>
    rw [run, commits_append, ih]
    rcases snapshot_step b e with ⟨hnone, hsame⟩ | ⟨ticket, menu, hone, hnew⟩
    · rw [hnone, hsame, List.nil_append]
    · rw [hone, hnew]
      exact ⟨fun _ => .inr (List.cons_ne_nil _ _), fun _ => .inl rfl⟩

/-- The current snapshot stays the current one exactly as long as nothing is committed, whatever menu
that would be. -/
theorem serial_run_eq_iff (b : Shared) (events : List Event) :
    (b.run events).2.store.snapshot.serial = b.store.snapshot.serial ↔
      commits (b.run events).1 = [] := by
  rw [serial_run, ← List.length_eq_zero_iff]
  omega

theorem Leads.serial_le {b c : Shared} (h : Leads b c) :
    b.store.snapshot.serial ≤ c.store.snapshot.serial := by
  obtain ⟨events, rfl⟩ := h
  rw [serial_run]
  exact Nat.le_add_right _ _

end Shared

theorem state_eq_loaded_iff (s : Store) :
    s.status.state = .loaded ↔ s.snapshot.loadedAt.isSome := by
  unfold status
  split <;> simp [*]

theorem state_eq_empty_iff (s : Store) :
    s.status.state = .empty ↔ ¬ s.snapshot.loadedAt.isSome := by
  unfold status
  split <;> simp [*]

namespace Session

theorem after_append (s : Session) (steps later : List Step) :
    s.after (steps ++ later) = (s.after steps).after later :=
  List.foldl_append

/-- Only keeping a snapshot under a name changes which one is kept under it. -/
theorem lookup_kept_step (s : Session) {step : Step} {id : String} (h : step ≠ .hold id) :
    (s.step step).2.kept.lookup id = s.kept.lookup id := by
  cases step with
  | hold other =>
    have hother : (id == other) = false := by
      rw [beq_eq_false_iff_ne]
      rintro rfl
      exact h rfl
    show List.lookup id ((other, s.store.snapshot) :: s.kept) = _
    rw [List.lookup_cons, hother]
  | join id | abort id | held id =>
    simp only [Session.step]
    split <;> rfl
  | set | load | start | wait | state | find | draw => rfl

theorem lookup_kept_after (s : Session) {steps : List Step} {id : String}
    (h : ∀ step ∈ steps, step ≠ .hold id) :
    (s.after steps).kept.lookup id = s.kept.lookup id := by
  induction steps generalizing s with
  | nil => rfl
  | cons step steps ih =>
    rw [List.forall_mem_cons] at h
    exact (ih _ h.2).trans (lookup_kept_step s h.1)

theorem after_ordered {s : Session} (h : Ordered s.store) (steps : List Step) :
    Ordered (s.after steps).store :=
  h.leads (after_leads h steps)

theorem after_serial_le {s : Session} (h : Ordered s.store) (steps : List Step) :
    s.store.snapshot.serial ≤ (s.after steps).store.snapshot.serial :=
  (Shared.leads_of_turns h (after_leads h steps)).serial_le

/-- A write makes a new snapshot, even if it writes the menu that is there already. -/
theorem after_serial_lt {s : Session} (h : Ordered s.store) {steps : List Step}
    {menu : List Menu.Entry} (hset : .set menu ∈ steps) :
    s.store.snapshot.serial < (s.after steps).store.snapshot.serial := by
  obtain ⟨before, later, rfl⟩ := List.append_of_mem hset
  have hordered := after_ordered h before
  have hwrite : ((s.after before).step (.set menu)).2.store.snapshot.serial =
      (s.after before).store.snapshot.serial + 1 := rfl
  have hbefore := after_serial_le h before
  have hlater := after_serial_le (hordered.leads (step_leads hordered (.set menu))) later
  rw [after_append]
  exact Nat.lt_of_le_of_lt hbefore (Nat.lt_of_lt_of_le (hwrite ▸ Nat.lt_succ_self _) hlater)

/-- A snapshot kept under a name is there to be read until another one is kept under the same name. -/
theorem step_held (s : Session) {id : String} {between : List Step}
    (h : ∀ step ∈ between, step ≠ .hold id) :
    (s.after (.hold id :: between)).step (.held id) =
      (.held s.store.snapshot.menu (s.store.snapshot.serial ==
          (s.after (.hold id :: between)).store.snapshot.serial),
        s.after (.hold id :: between)) := by
  have hkept : (s.after (.hold id :: between)).kept.lookup id = some s.store.snapshot := by
    refine (lookup_kept_after _ h).trans ?_
    exact List.lookup_cons_self
  rw [Session.step, hkept]

end Session

namespace Shared

/-- Status and kept snapshots are truthful. -/
theorem truthful (source : Source) (timeout : Nat) :
    (∀ steps, ∀ x ∈ Session.run ⟨.fresh source timeout, [], []⟩ steps,
      Leads (fresh source timeout) ⟨x.2.store, []⟩) ∧
    (∀ events,
      let marks := ((fresh source timeout).run events).1
      let b := ((fresh source timeout).run events).2
      (b.store.status.state = .loaded ↔ commits marks ≠ []) ∧
      (b.store.status.loadedAt.isSome ↔ commits marks ≠ []) ∧
      b.store.status.entries = (Menu.entries b.store.snapshot.menu).length ∧
      (b.store.status.state = .empty → b.store.snapshot.menu = []) ∧
      ∀ later,
        let c := (b.run later).2
        (b.store.status.state = .loaded → c.store.status.state = .loaded) ∧
        (commits (b.run later).1 = [] → c.store.snapshot = b.store.snapshot) ∧
        (c.store.snapshot.serial = b.store.snapshot.serial ↔ commits (b.run later).1 = [])) ∧
    ∀ before id between, (∀ step ∈ between, step ≠ .hold id) →
      let s := Session.after ⟨.fresh source timeout, [], []⟩ before
      let t := Session.after s (.hold id :: between)
      ∃ isCurrent,
        t.step (.held id) = (.held s.store.snapshot.menu isCurrent, t) ∧
        (∀ menu, .set menu ∈ between → isCurrent = false) ∧
        Leads ⟨s.store, []⟩ ⟨t.store, []⟩ ∧
        ∀ events, (run ⟨s.store, []⟩ events).2 = ⟨t.store, []⟩ →
          (isCurrent = true ↔ commits (run ⟨s.store, []⟩ events).1 = []) := by
  refine ⟨session_leads source timeout, fun events => ?_, fun before id between hname => ?_⟩
  · intro marks b
    have hloaded : b.store.snapshot.loadedAt.isSome ↔ commits marks ≠ [] := by
      rw [loadedAt_run]
      exact or_iff_right fun h => nomatch h
    refine ⟨(state_eq_loaded_iff _).trans hloaded, hloaded, Menu.count_eq_length _, ?_, ?_⟩
    · intro hempty
      have hnone := mt hloaded.mpr ((state_eq_empty_iff _).mp hempty)
      exact congrArg Snapshot.menu (snapshot_run _ (not_not.mp hnone))
    · intro later c
      refine ⟨?_, snapshot_run b, serial_run_eq_iff b later⟩
      rw [state_eq_loaded_iff, state_eq_loaded_iff]
      exact fun hsome => (loadedAt_run b later).mpr (.inl hsome)
  · intro s t
    have hordered : Ordered s.store :=
      Session.after_ordered (s := ⟨.fresh source timeout, [], []⟩) (ordered_fresh source timeout) _
    refine ⟨s.store.snapshot.serial == t.store.snapshot.serial, Session.step_held s hname, ?_,
      leads_of_turns hordered (after_leads hordered _), ?_⟩
    · intro menu hset
      rw [beq_eq_false_iff_ne]
      exact Nat.ne_of_lt (Session.after_serial_lt hordered (List.mem_cons_of_mem _ hset))
    · intro events hrun
      rw [beq_iff_eq, ← serial_run_eq_iff, hrun]
      exact eq_comm

end Shared

end ConsoleNav.Store
