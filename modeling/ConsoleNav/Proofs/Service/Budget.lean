import ConsoleNav.Proofs.Service.Replication
import ConsoleNav.Proofs.Service.Effects
import ConsoleNav.Proofs.Store.Clock
import ConsoleNav.Proofs.Store.Retrying

/-!
The budget of a load whose source is down: the pauses between its attempts on the one hand, the timeout
of the load on the other.
-/
namespace ConsoleNav.Service

open Store

/-- The code that tells a client that there is no menu from a source that is down. -/
def downCode (r : Remote) (timeout : Nat) : Nat :=
  if pauses 0 r.retries ≤ timeout then 502 else 504

theorem faultCode_down (r : Remote) (timeout : Nat) :
    faultCode (.fetch (r.downFault timeout)) = downCode r timeout := by
  unfold Remote.downFault downCode
  split
  · obtain ⟨reason, hreason⟩ := r.fault_eq
    rw [hreason]
    rfl
  · rfl

section Down

variable {r : Remote} {responses : List Store.Response} {timeout : Nat} {moments : List Moment}
  {s : Store}

theorem enter_down (hlimit : s.timeout = timeout) (hsource : s.source = .remote r responses) :
    s.enter.1 = ⟨s.generation + 1, Source.ofReport (r.ask (some timeout) responses), s.clock⟩ := by
  have hnext : (s.source.next s.timeout).1 = Source.ofReport (r.ask (some timeout) responses) := by
    rw [hsource, hlimit]
    rfl
  rw [← hnext]
  rfl

/-- A load that is waited for. -/
theorem load_down (hdown : r.IsDownFor (r.retries + 1) responses) (h : Timely timeout moments s)
    (hpatient : Patient s) (hsource : s.source = .remote r responses) :
    s.load.1 = some (.error (.fetch (r.downFault timeout))) ∧
      s.load.2.clock = s.clock + min (pauses 0 r.retries) timeout ∧
      s.load.2.snapshot = s.snapshot ∧ s.load.2.generation = s.generation + 1 ∧
      s.load.2.source = .remote r (r.ask (some timeout) responses).responses := by
  obtain ⟨hwrites, hverdict⟩ := hdown.verdict (congrArg Load.fetch (enter_down h.limit hsource))
  obtain ⟨answer, hanswer, hmenu, hsnapshot, hgeneration⟩ := load_alone h hpatient hwrites
  rw [hverdict] at hmenu
  cases answer with
  | ok snapshot => cases hmenu
  | error fault =>
    cases hmenu
    refine ⟨hanswer, ?_, hsnapshot, hgeneration, ?_⟩
    · rw [load_clock h hpatient hwrites, hverdict]
      rfl
    · rw [load_source h.ordered, hsource, h.limit]
      rfl

/-- A load in the background, whatever else happens meanwhile. -/
theorem background_down (hdown : r.IsDownFor (r.retries + 1) responses) (source : Source)
    (ts us : List Turn) (hs : s = ((fresh source timeout).turns ts).2)
    (hsource : s.source = .remote r responses) :
    let report := r.ask (some timeout) responses
    let spent := min (pauses 0 r.retries) timeout
    let l : Load := ⟨s.generation + 1, Source.ofReport report, s.clock⟩
    let moments := ((fresh source timeout).turns (ts ++ .begin :: us)).1
    let t := ((fresh source timeout).turns (ts ++ .begin :: us)).2
    .begun l ∈ moments ∧
    (l ∈ t.pending ∨ .aborted l.ticket ∈ moments ∨
      ∃ newest clock answer, .ended l newest clock answer ∈ moments) ∧
    (l ∈ t.pending → t.isQuiet → t.generation = l.ticket ∧ t.clock < l.begun + spent) ∧
    (∀ newest clock answer, .ended l newest clock answer ∈ moments →
      if newest = l.ticket then
        clock = l.begun + spent ∧ answer = .error (.fetch (r.downFault timeout))
      else l.ticket < newest ∧
        (answer = .error .superseded ∨
          clock = l.begun + spent ∧ answer = .error (.fetch (r.downFault timeout)))) ∧
    (t.generation = l.ticket → t.snapshot = s.snapshot) ∧
    ((∀ u ∈ us, u ≠ .begin) → t.source = .remote r report.responses) := by
  intro report spent l moments t
  have h : Timely timeout ((fresh source timeout).turns ts).1 s := hs ▸ timely_turns source timeout ts
  have hall : Timely timeout moments t := timely_turns source timeout (ts ++ .begin :: us)
  have henter : s.enter.1 = l := enter_down h.limit hsource
  obtain ⟨hwrites, hverdict⟩ := hdown.verdict (l := l) rfl
  have hsplit := turns_append (fresh source timeout) ts (.begin :: us)
  rw [← hs] at hsplit
  have hmoments : moments = ((fresh source timeout).turns ts).1 ++ (s.turn .begin).1 ++
      ((s.turn .begin).2.turns us).1 := by
    rw [List.append_assoc]
    exact congrArg Prod.fst hsplit
  have ht : t = ((s.turn .begin).2.turns us).2 := by
    show ((fresh source timeout).turns (ts ++ .begin :: us)).2 = _
    rw [hsplit]
    rfl
  have hundisturbed : Undisturbed l s.snapshot moments t := by
    rw [hmoments, ht, ← henter]
    exact (undisturbed_begin h (henter ▸ hwrites)).turns us
  have hbegun : .begun l ∈ moments := by
    rw [hmoments, ← henter]
    exact List.mem_append_left _ (List.mem_append_right _ List.mem_cons_self)
  refine ⟨hbegun, hall.accounted l hbegun, fun hl hquiet => ?_, fun newest clock answer hended => ?_,
    hundisturbed.same_snapshot hall hverdict, fun hnone => ?_⟩
  · obtain ⟨hnewest, hclock⟩ := isQuiet_iff.mp hquiet l hl
    have hwakes := l.wakes_le_verdict timeout
    rw [hverdict] at hwakes
    rw [hall.limit] at hclock
    exact ⟨hnewest, Nat.lt_of_lt_of_le hclock hwakes⟩
  · obtain ⟨-, race, hends⟩ := hall.ends l newest clock answer hended
    exact hends.of_fault hverdict
  · rw [ht, turns_source _ hnone, begin_source, hsource, h.limit]
    rfl

/-- A load over the net. -/
theorem request_down (hdown : r.IsDownFor (r.retries + 1) responses) {source : Source}
    {s : Session} (hs : Leads (fresh source timeout) s.app.store)
    (hsource : s.app.store.source = .remote r responses) {q : Request} (hload : q.loadsMenu) :
    s.step (.request q) =
      (.response (.text (downCode r timeout) (LoadFault.fetch (r.downFault timeout)).message),
        s.withStore s.app.store.load.2) := by
  obtain ⟨ts, hts⟩ := hs
  have h : Timely timeout ((fresh source timeout).turns ts).1 s.app.store :=
    hts ▸ timely_turns source timeout ts
  have hpatient : Patient s.app.store :=
    hts ▸ Patient.turns (ordered_fresh source timeout) (fun hne => absurd rfl hne) ts
  rw [Session.step_load hload, (load_down hdown h hpatient hsource).1, Session.responseOf,
    loadResponse, faultCode_down]

end Down

/-- Retries against the timeout. -/
theorem retry_budget {r : Remote} {responses : List Store.Response}
    (hdown : r.IsDownFor (r.retries + 1) responses) (timeout : Nat) :
    let pause count := ((List.range count).map fun i => 200 * Nat.pow 2 (min i 6)).sum
    let budget := pause r.retries
    let spent := min budget timeout
    let fault := if budget ≤ timeout then r.fault else .timedOut timeout
    let code := if budget ≤ timeout then 502 else 504
    let report := r.ask (some timeout) responses
    (∃ reason, r.fault = .unreachable reason) ∧
    (∃ attempts, 0 < attempts ∧ attempts ≤ r.retries + 1 ∧
      (attempts ≤ r.retries → timeout < pause attempts) ∧
      report.requests = attempts * r.requestsEach ∧
      report.responses = responses.drop report.requests ∧
      ∀ i < attempts, pause i ≤ spent ∧
        report = r.askFrom (some timeout) (r.retries - i) i (i * r.requestsEach) (pause i)
          (responses.drop (i * r.requestsEach))) ∧
    (∀ source ts,
      let s := ((fresh source timeout).turns ts).2
      s.source = .remote r responses →
      (s.load.1 = some (.error (.fetch fault)) ∧ s.load.2.clock = s.clock + spent ∧
        s.load.2.snapshot = s.snapshot ∧ s.load.2.generation = s.generation + 1 ∧
        s.load.2.source = .remote r report.responses) ∧
      ∀ us,
        let l : Load := ⟨s.generation + 1, Source.ofReport report, s.clock⟩
        let moments := ((fresh source timeout).turns (ts ++ .begin :: us)).1
        let t := ((fresh source timeout).turns (ts ++ .begin :: us)).2
        .begun l ∈ moments ∧
        (l ∈ t.pending ∨ .aborted l.ticket ∈ moments ∨
          ∃ newest clock answer, .ended l newest clock answer ∈ moments) ∧
        (l ∈ t.pending → t.isQuiet → t.generation = l.ticket ∧ t.clock < l.begun + spent) ∧
        (∀ newest clock answer, .ended l newest clock answer ∈ moments →
          if newest = l.ticket then clock = l.begun + spent ∧ answer = .error (.fetch fault)
          else l.ticket < newest ∧
            (answer = .error .superseded ∨
              clock = l.begun + spent ∧ answer = .error (.fetch fault))) ∧
        (t.generation = l.ticket → t.snapshot = s.snapshot) ∧
        ((∀ u ∈ us, u ≠ .begin) → t.source = .remote r report.responses)) ∧
    loadResponse (.error (.fetch fault)) = .text code (LoadFault.fetch fault).message ∧
    ∀ source table filter steps q,
      let s := Session.after ⟨⟨.fresh source timeout, table, filter⟩, []⟩ steps
      s.app.store.source = .remote r responses → q.loadsMenu →
        s.step (.request q) =
          (.response (.text code (LoadFault.fetch fault).message),
            s.withStore s.app.store.load.2) := by
  intro pause budget spent fault code report
  have hpause (count : Nat) : pause count = pauses 0 count := by
    rw [pauses_eq_sum]
    simp only [Nat.zero_add, backoff, pause]
  have hfault : fault = r.downFault timeout := by
    simp only [fault, budget, hpause, Remote.downFault]
  have hspent : spent = min (pauses 0 r.retries) timeout := by simp only [spent, budget, hpause]
  have hcode : code = downCode r timeout := by simp only [code, budget, hpause, downCode]
  refine ⟨r.fault_eq, ?_, fun source ts => ?_, ?_, fun source table filter steps q => ?_⟩
  · simp only [hpause, hspent]
    exact hdown.gives_up timeout
  · intro s hsource
    have h : Timely timeout ((fresh source timeout).turns ts).1 s := timely_turns source timeout ts
    have hpatient : Patient s :=
      Patient.turns (ordered_fresh source timeout) (fun hne => absurd rfl hne) ts
    rw [hfault, hspent]
    exact ⟨load_down hdown h hpatient hsource, fun us => background_down hdown source ts us rfl hsource⟩
  · rw [hcode, hfault, loadResponse, faultCode_down]
  · intro s hsource hload
    rw [hcode, hfault]
    have hleads : Leads (fresh source timeout) s.app.store :=
      Session.after_leads (s := ⟨⟨.fresh source timeout, table, filter⟩, []⟩)
        (ordered_fresh source timeout) steps
    exact request_down hdown hleads hsource hload

/-- Three retries take 1400 milliseconds, which a timeout of just as many still allows for. -/
theorem retry_budget_three :
    let r := Remote.ofAddress "http://[::1]:9/api/v1" 3
    r.IsDownFor 4 [] ∧
    ((fresh (.remote r []) 1400).load.1 = some (.error (.fetch (unanswered loopback))) ∧
      (fresh (.remote r []) 1400).load.2.clock = 1400) ∧
    (fresh (.remote r []) 1399).load.1 = some (.error (.fetch (.timedOut 1399))) ∧
      (fresh (.remote r []) 1399).load.2.clock = 1399 := by
  intro r
  have hdown : r.IsDownFor (r.retries + 1) [] := fun _ _ _ hx => absurd hx List.not_mem_nil
  have hfault : r.fault = unanswered loopback := by rw [Remote.fault, address_loopback]
  have hbudget : ((List.range r.retries).map fun i => 200 * Nat.pow 2 (min i 6)).sum = 1400 := by
    decide
  have hlong := ((retry_budget hdown 1400).2.2.1 (.remote r []) [] rfl).1
  have hshort := ((retry_budget hdown 1399).2.2.1 (.remote r []) [] rfl).1
  simp only [hbudget, turns] at hlong hshort
  rw [← hfault]
  exact ⟨hdown, ⟨hlong.1, hlong.2.1⟩, hshort.1, hshort.2.1⟩

end ConsoleNav.Service
