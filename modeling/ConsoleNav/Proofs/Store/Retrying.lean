import ConsoleNav.Proofs.Store.Asking
import ConsoleNav.Proofs.Store.Undisturbed
import Mathlib.Algebra.BigOperators.Group.List.Basic
import Mathlib.Algebra.Ring.Nat
import Mathlib.Data.Nat.Find

/-!
A remote source that cannot be reached. Each attempt fails at once and uses up one pause, until the
retries are used up or the patience is; whichever comes first decides how the load ends, and when.
-/
namespace ConsoleNav.Store

/-- The fault of every attempt to reach a source that is down. -/
def Remote.fault (r : Remote) : FetchFault :=
  match r.address with
  | .error fault => .unreachable fault.message
  | .ok a => unanswered a

/-- How many requests an attempt makes: none where there is no address for it. -/
def Remote.requestsEach (r : Remote) : Nat :=
  match r.address with
  | .error _ => 0
  | .ok _ => 1

/-- Of this many attempts none gets an answer. -/
def Remote.IsDownFor (r : Remote) (attempts : Nat) (responses : List Response) : Prop :=
  ∀ a, r.address = .ok a → ∀ x ∈ responses.take attempts, x.isLost

theorem Remote.fault_eq (r : Remote) : ∃ reason, r.fault = .unreachable reason := by
  unfold Remote.fault
  cases r.address with
  | error fault => exact ⟨_, rfl⟩
  | ok a => exact ⟨_, rfl⟩

/-! ### How long the pauses take -/

theorem pauses_eq_sum (attempt count : Nat) :
    pauses attempt count = ((List.range count).map fun i => backoff (attempt + i)).sum := by
  induction count generalizing attempt with
  | zero => rfl
  | succ count ih =>
    have hshift : (List.range count).map (fun i => backoff (attempt + 1 + i)) =
        (List.range count).map ((fun i => backoff (attempt + i)) ∘ Nat.succ) := by
      apply List.map_congr_left
      intro i _
      show backoff (attempt + 1 + i) = backoff (attempt + (i + 1))
      rw [Nat.add_assoc, Nat.add_comm 1]
    rw [pauses, ih, hshift, List.range_succ_eq_map, List.map_cons, List.sum_cons, List.map_map,
      Nat.add_zero]

theorem pauses_succ (attempt count : Nat) :
    pauses attempt (count + 1) = pauses attempt count + backoff (attempt + count) := by
  rw [pauses_eq_sum, pauses_eq_sum, List.range_succ, List.map_append, List.sum_append,
    List.map_singleton, List.sum_singleton]

theorem pauses_mono (attempt : Nat) {count more : Nat} (h : count ≤ more) :
    pauses attempt count ≤ pauses attempt more := by
  obtain ⟨extra, rfl⟩ := Nat.exists_eq_add_of_le h
  induction extra with
  | zero => exact Nat.le_refl _
  | succ extra ih =>
    rw [← Nat.add_assoc, pauses_succ]
    exact Nat.le_trans (ih (Nat.le_add_right _ _)) (Nat.le_add_right _ _)

/-- How many of the pauses are over when the patience is. -/
def pausesWithin (retries timeout : Nat) : Nat :=
  Nat.findGreatest (fun count => pauses 0 count ≤ timeout) retries

section Within

variable {retries timeout : Nat}

theorem pausesWithin_le (retries timeout : Nat) : pausesWithin retries timeout ≤ retries :=
  Nat.findGreatest_le _

theorem pauses_pausesWithin_le (retries timeout : Nat) :
    pauses 0 (pausesWithin retries timeout) ≤ timeout :=
  Nat.findGreatest_spec (P := fun count => pauses 0 count ≤ timeout) (Nat.zero_le _) (Nat.zero_le _)

theorem pausesWithin_eq (h : pauses 0 retries ≤ timeout) : pausesWithin retries timeout = retries :=
  Nat.findGreatest_eq h

theorem pausesWithin_lt (h : timeout < pauses 0 retries) : pausesWithin retries timeout < retries := by
  refine Nat.lt_of_le_of_ne (pausesWithin_le retries timeout) fun heq => ?_
  have hle := pauses_pausesWithin_le retries timeout
  rw [heq] at hle
  omega

theorem lt_pauses_succ (h : timeout < pauses 0 retries) :
    timeout < pauses 0 (pausesWithin retries timeout + 1) := by
  have hlt := Nat.findGreatest_is_greatest (P := fun count => pauses 0 count ≤ timeout)
    (Nat.lt_succ_self (pausesWithin retries timeout)) (pausesWithin_lt h)
  exact Nat.lt_of_not_le hlt

end Within

/-! ### Asking -/

section Down

variable {r : Remote} {responses : List Response} {attempts : Nat}

theorem Remote.IsDownFor.attempt (h : r.IsDownFor (attempts + 1) responses) :
    r.attempt responses = (.error r.fault, r.requestsEach, responses.drop r.requestsEach) := by
  unfold Remote.attempt Remote.fault Remote.requestsEach
  cases haddress : r.address with
  | error fault => rfl
  | ok a =>
    cases responses with
    | nil => rfl
    | cons x xs =>
      have hlost : x.isLost := h a haddress x List.mem_cons_self
      dsimp only
      rw [Response.read_lost a hlost]
      rfl

theorem Remote.IsDownFor.drop (h : r.IsDownFor (attempts + 1) responses) :
    r.IsDownFor attempts (responses.drop r.requestsEach) := by
  intro a haddress x hx
  have heach : r.requestsEach = 1 := by rw [Remote.requestsEach, haddress]
  refine h a haddress x ?_
  rw [heach, List.take_drop] at hx
  rw [Nat.add_comm]
  exact List.mem_of_mem_drop hx

variable {patience : Option Nat} {left attempt requests waited : Nat}

/-- The last attempt. -/
theorem Remote.IsDownFor.askFrom_zero (h : r.IsDownFor (attempts + 1) responses) :
    r.askFrom patience 0 attempt requests waited responses =
      ⟨requests + r.requestsEach, waited, some (.error r.fault),
        responses.drop r.requestsEach⟩ := by
  obtain ⟨reason, hreason⟩ := r.fault_eq
  rw [Remote.askFrom, h.attempt, hreason]

theorem Remote.IsDownFor.askFrom_succ (h : r.IsDownFor (attempts + 1) responses) :
    r.askFrom patience (left + 1) attempt requests waited responses =
      if exceeds patience (waited + backoff attempt) then
        ⟨requests + r.requestsEach, waited + backoff attempt, none,
          responses.drop r.requestsEach⟩
      else
        r.askFrom patience left (attempt + 1) (requests + r.requestsEach)
          (waited + backoff attempt) (responses.drop r.requestsEach) := by
  obtain ⟨reason, hreason⟩ := r.fault_eq
  rw [Remote.askFrom, h.attempt, hreason]

/-- As long as there is patience, attempt after attempt fails, each one after its pause. -/
theorem Remote.IsDownFor.askFrom_add {count : Nat} (left attempt requests waited : Nat)
    (h : r.IsDownFor (attempts + count) responses)
    (hpatient : exceeds patience (waited + pauses attempt count) = false) :
    r.askFrom patience (count + left) attempt requests waited responses =
        r.askFrom patience left (attempt + count) (requests + count * r.requestsEach)
          (waited + pauses attempt count) (responses.drop (count * r.requestsEach)) ∧
      r.IsDownFor attempts (responses.drop (count * r.requestsEach)) := by
  induction count generalizing responses attempt requests waited with
  | zero => simpa [pauses] using h
  | succ count ih =>
    rw [pauses, ← Nat.add_assoc] at hpatient
    have hfirst := exceeds_mono hpatient (Nat.le_add_right _ _)
    obtain ⟨hask, hdown⟩ := ih (attempt + 1) (requests + r.requestsEach) (waited + backoff attempt)
      h.drop hpatient
    have hdrop : (responses.drop r.requestsEach).drop (count * r.requestsEach) =
        responses.drop ((count + 1) * r.requestsEach) := by
      rw [List.drop_drop, Nat.add_mul, Nat.one_mul, Nat.add_comm]
    rw [hdrop] at hask hdown
    refine ⟨?_, hdown⟩
    rw [Nat.add_right_comm, h.askFrom_succ, hfirst, if_neg Bool.false_ne_true, hask, pauses,
      Nat.add_assoc attempt, Nat.add_comm 1, Nat.add_assoc requests, Nat.add_assoc waited,
      Nat.add_mul, Nat.one_mul, Nat.add_comm r.requestsEach]

variable {timeout : Nat}

/-- Attempt number `count` is made when that many pauses are over, unless the patience is over before. -/
theorem Remote.IsDownFor.ask_eq_askFrom (h : r.IsDownFor (r.retries + 1) responses) {count : Nat}
    (hcount : count ≤ pausesWithin r.retries timeout) :
    r.ask (some timeout) responses =
        r.askFrom (some timeout) (r.retries - count) count (count * r.requestsEach) (pauses 0 count)
          (responses.drop (count * r.requestsEach)) ∧
      r.IsDownFor (r.retries - count + 1) (responses.drop (count * r.requestsEach)) := by
  have hretries := Nat.le_trans hcount (pausesWithin_le r.retries timeout)
  have hwait := Nat.le_trans (pauses_mono 0 hcount) (pauses_pausesWithin_le r.retries timeout)
  have hpatient : exceeds (some timeout) (0 + pauses 0 count) = false := by
    rw [Nat.zero_add, exceeds, decide_eq_false_iff_not]
    omega
  have hsplit : count + (r.retries - count) = r.retries := by omega
  have hattempts : r.retries + 1 = r.retries - count + 1 + count := by omega
  rw [hattempts] at h
  have hask := h.askFrom_add (r.retries - count) 0 0 0 hpatient
  rw [hsplit, Nat.zero_add, Nat.zero_add, Nat.zero_add] at hask
  exact hask

/-- What comes of asking a source that is down: it is given up after the last retry, or in the pause in
which the patience is over. -/
theorem Remote.IsDownFor.ask_eq (h : r.IsDownFor (r.retries + 1) responses) (timeout : Nat) :
    let made := pausesWithin r.retries timeout + 1
    r.ask (some timeout) responses =
      if pauses 0 r.retries ≤ timeout then
        ⟨made * r.requestsEach, pauses 0 r.retries, some (.error r.fault),
          responses.drop (made * r.requestsEach)⟩
      else
        ⟨made * r.requestsEach, pauses 0 made, none, responses.drop (made * r.requestsEach)⟩ := by
  intro made
  obtain ⟨hask, hdown⟩ := h.ask_eq_askFrom (Nat.le_refl (pausesWithin r.retries timeout))
  have hresponses : (responses.drop (pausesWithin r.retries timeout * r.requestsEach)).drop
      r.requestsEach = responses.drop (made * r.requestsEach) := by
    rw [List.drop_drop, Nat.add_mul, Nat.one_mul]
  have hrequests : pausesWithin r.retries timeout * r.requestsEach + r.requestsEach =
      made * r.requestsEach := by
    rw [Nat.add_mul, Nat.one_mul]
  rw [hask]
  by_cases hbudget : pauses 0 r.retries ≤ timeout
  · have hall := pausesWithin_eq hbudget
    have hlast : r.retries - pausesWithin r.retries timeout = 0 := by omega
    rw [if_pos hbudget, hlast, hdown.askFrom_zero, hresponses, hrequests, hall]
  · have hover := Nat.lt_of_not_le hbudget
    obtain ⟨left, hleft⟩ : ∃ left, r.retries - pausesWithin r.retries timeout = left + 1 :=
      ⟨r.retries - pausesWithin r.retries timeout - 1, by have := pausesWithin_lt hover; omega⟩
    have hwait : pauses 0 (pausesWithin r.retries timeout) +
        backoff (pausesWithin r.retries timeout) = pauses 0 made := by
      rw [pauses_succ, Nat.zero_add]
    have hexceeds : exceeds (some timeout) (pauses 0 made) = true :=
      decide_eq_true (lt_pauses_succ hover)
    rw [if_neg hbudget, hleft, hdown.askFrom_succ, hwait, hexceeds, if_pos rfl, hresponses, hrequests]

/-- The requests to a source that is down: attempt after attempt, each one at the end of its pause, and
none once the last retry has failed or the patience is over. -/
theorem Remote.IsDownFor.gives_up (h : r.IsDownFor (r.retries + 1) responses) (timeout : Nat) :
    let report := r.ask (some timeout) responses
    ∃ attempts, 0 < attempts ∧ attempts ≤ r.retries + 1 ∧
      (attempts ≤ r.retries → timeout < pauses 0 attempts) ∧
      report.requests = attempts * r.requestsEach ∧
      report.responses = responses.drop report.requests ∧
      ∀ i < attempts, pauses 0 i ≤ min (pauses 0 r.retries) timeout ∧
        report = r.askFrom (some timeout) (r.retries - i) i (i * r.requestsEach) (pauses 0 i)
          (responses.drop (i * r.requestsEach)) := by
  intro report
  have hreport : report = _ := h.ask_eq timeout
  have hrequests : report.requests = (pausesWithin r.retries timeout + 1) * r.requestsEach ∧
      report.responses = responses.drop report.requests := by
    rw [hreport]
    split <;> exact ⟨rfl, rfl⟩
  refine ⟨pausesWithin r.retries timeout + 1, Nat.succ_pos _,
    Nat.succ_le_succ (pausesWithin_le r.retries timeout), fun hleft => ?_, hrequests.1, hrequests.2,
    fun i hi => ⟨?_, (h.ask_eq_askFrom (Nat.le_of_lt_succ hi)).1⟩⟩
  · apply lt_pauses_succ
    by_contra hbudget
    have := pausesWithin_eq (Nat.le_of_not_lt hbudget)
    omega
  · have hcount := Nat.le_of_lt_succ hi
    have hretries := pauses_mono 0 (Nat.le_trans hcount (pausesWithin_le r.retries timeout))
    have hpatience := Nat.le_trans (pauses_mono 0 hcount) (pauses_pausesWithin_le r.retries timeout)
    exact Nat.le_min.mpr ⟨hretries, hpatience⟩

/-! ### The load -/

/-- Why there is no menu from a source that is down. -/
def Remote.downFault (r : Remote) (timeout : Nat) : FetchFault :=
  if pauses 0 r.retries ≤ timeout then r.fault else .timedOut timeout

theorem Remote.IsDownFor.verdict (h : r.IsDownFor (r.retries + 1) responses) {l : Load}
    (hfetch : l.fetch = Source.ofReport (r.ask (some timeout) responses)) :
    l.fetch.writes = none ∧
      l.verdict timeout =
        (l.begun + min (pauses 0 r.retries) timeout, .error (.fetch (r.downFault timeout))) := by
  refine ⟨by rw [hfetch]; rfl, ?_⟩
  rw [h.ask_eq timeout] at hfetch
  unfold Remote.downFault
  by_cases hbudget : pauses 0 r.retries ≤ timeout
  · rw [if_pos hbudget] at hfetch
    have hearly : ¬ (timeout < l.fetch.delay ∨ (l.fetch.yields ∧ timeout = 0)) := by
      rw [hfetch]
      rintro (hlate | ⟨hyields, -⟩)
      · exact absurd hbudget (Nat.not_le.mpr hlate)
      · cases hyields
    rw [Load.verdict, if_neg hearly, hfetch, if_pos hbudget, Nat.min_eq_left hbudget]
    rfl
  · have hover := Nat.lt_of_not_le hbudget
    rw [if_neg hbudget] at hfetch
    have hlate : timeout < l.fetch.delay := by
      rw [hfetch]
      exact lt_pauses_succ hover
    rw [Load.verdict_late (.inl hlate), if_neg hbudget, Nat.min_eq_right (Nat.le_of_lt hover)]

end Down

section Ends

variable {timeout : Nat} {l : Load} {fault : LoadFault} {due : Nat}

/-- The answer of a load that ends with a fault leaves the snapshot alone. -/
theorem Undisturbed.same_snapshot {before : Snapshot} {moments : List Moment} {s : Store}
    (h : Undisturbed l before moments s) (htimely : Timely timeout moments s)
    (hverdict : l.verdict timeout = (due, .error fault)) (hnewest : s.generation = l.ticket) :
    s.snapshot = before := by
  cases h.course hnewest with
  | running _ same => exact same
  | @finished clock answer ended left =>
    obtain ⟨-, race, hends⟩ := htimely.ends _ _ _ _ ended
    rw [Load.EndsAs, if_pos rfl, hverdict] at hends
    cases answer with
    | error other => exact left
    | ok snapshot => cases hends

theorem Load.EndsAs.of_fault {race : Race} {newest clock : Nat} {answer : Answer}
    (h : l.EndsAs timeout race newest clock answer)
    (hverdict : l.verdict timeout = (due, .error fault)) :
    if newest = l.ticket then clock = due ∧ answer = .error fault
    else l.ticket < newest ∧
      (answer = .error .superseded ∨ clock = due ∧ answer = .error fault) := by
  unfold Load.EndsAs at h
  rw [hverdict] at h
  split at h
  · next hnewest =>
    rw [if_pos hnewest]
    cases answer with
    | error other => exact ⟨congrArg Prod.fst h, by cases h; rfl⟩
    | ok snapshot => cases h
  · next holder =>
    obtain ⟨hnewer, -, hend⟩ := h
    rw [if_neg holder]
    refine ⟨hnewer, ?_⟩
    by_cases hnow : race = .source ∧ clock = due
    · rw [hnow.1, hnow.2, Load.overtaken_fault hverdict] at hend
      exact .inr ⟨hnow.2, hend⟩
    · rw [Load.overtaken, hverdict] at hend
      exact .inl (hend.trans (congrArg _ (if_neg hnow)))

end Ends

end ConsoleNav.Store
