import ConsoleNav.Store.Time
import Mathlib.Data.List.Basic

/-!
What the operations of a store change and what they leave alone, and every way in which a load can go
on.
-/
namespace ConsoleNav.Store

variable {s : Store} {l : Load}

@[simp] theorem set_fst (menu : List Menu.Entry) (s : Store) :
    (s.set menu).1 = (s.set menu).2.snapshot := rfl

@[simp] theorem set_generation (menu : List Menu.Entry) (s : Store) :
    (s.set menu).2.generation = s.generation + 1 := rfl

@[simp] theorem set_clock (menu : List Menu.Entry) (s : Store) :
    (s.set menu).2.clock = s.clock := rfl

@[simp] theorem set_timeout (menu : List Menu.Entry) (s : Store) :
    (s.set menu).2.timeout = s.timeout := rfl

@[simp] theorem set_pending (menu : List Menu.Entry) (s : Store) :
    (s.set menu).2.pending = s.pending := rfl

@[simp] theorem set_finished (menu : List Menu.Entry) (s : Store) :
    (s.set menu).2.finished = s.finished := rfl

/-- A load looks at its source, whatever the tickets say, unless it has been overtaken and looks at them
first. -/
def Race.ready (race : Race) (l : Load) (s : Store) : Prop :=
  race = .source ∨ s.generation = l.ticket

theorem Race.ready_ticket : Race.ticket.ready l s ↔ s.generation = l.ticket :=
  or_iff_right Race.noConfusion

/-- What can come of letting a load go on. -/
inductive Polled (race : Race) (passOver : Bool) (l : Load) (s : Store) : Option Answer × Store → Prop
  | superseded (older : s.generation ≠ l.ticket)
      (unready : race = .source → (l.isDue s.clock → passOver = true) ∧ s.clock < l.deadline s.timeout) :
      Polled race passOver l s (some (.error .superseded), s)
  | answered (ready : race.ready l s) (due : l.isDue s.clock) (here : passOver = false)
      {outcome : Except FetchFault (List Menu.Entry)} (given : l.fetch.outcome = some outcome) :
      Polled race passOver l s
        (some ((s.letWrite l).conclude l outcome).1, ((s.letWrite l).conclude l outcome).2)
  | wrote (ready : race.ready l s) (due : l.isDue s.clock) (here : passOver = false)
      (hangs : l.fetch.outcome = none) {menu : List Menu.Entry}
      (writes : l.fetch.writes = some menu) :
      Polled race passOver l s
        (some (.error (if l.deadline s.timeout ≤ s.clock then .fetch (.timedOut s.timeout)
          else .superseded)), (s.set menu).2)
  | timedOut (ready : race.ready l s) (idle : l.isDue s.clock → passOver = true)
      (late : l.deadline s.timeout ≤ s.clock) :
      Polled race passOver l s (some (.error (.fetch (.timedOut s.timeout))), s)
  | waits (newest : s.generation = l.ticket) (idle : l.isDue s.clock → passOver = true)
      (early : s.clock < l.deadline s.timeout) :
      Polled race passOver l s (none, s)

theorem isSome_writes_of_isDue {clock : Nat} (due : l.isDue clock) (hangs : l.fetch.outcome = none) :
    ∃ menu, l.fetch.writes = some menu := by
  cases hwrites : l.fetch.writes with
  | none => simp [Load.isDue, Load.due, Fetch.due, hangs, hwrites] at due
  | some menu => exact ⟨menu, rfl⟩

theorem polled (race : Race) (passOver : Bool) (l : Load) (s : Store) :
    Polled race passOver l s (s.poll race passOver l) := by
  unfold poll
  by_cases overtaken : race = .ticket ∧ s.generation ≠ l.ticket
  · rw [if_pos overtaken]
    exact .superseded overtaken.2 fun hsource => by rw [overtaken.1] at hsource; cases hsource
  rw [if_neg overtaken]
  have ready : race.ready l s := by
    cases race with
    | source => exact .inl rfl
    | ticket => exact .inr (not_not.mp fun older => overtaken ⟨rfl, older⟩)
  by_cases due : l.isDue s.clock ∧ passOver = false
  · rw [if_pos (by simp [due.1, due.2])]
    cases given : l.fetch.outcome with
    | some outcome => exact .answered ready due.1 due.2 given
    | none =>
        obtain ⟨menu, hmenu⟩ := isSome_writes_of_isDue due.1 given
        have hgo := Polled.wrote ready due.1 due.2 given hmenu
        have hend : (s.set menu).2.withoutAnswer l =
            .error (if l.deadline s.timeout ≤ s.clock then .fetch (.timedOut s.timeout)
              else .superseded) := by
          unfold withoutAnswer
          by_cases late : l.deadline s.timeout ≤ s.clock
          · rw [if_pos late]
            exact if_pos late
          · rw [if_neg late]
            exact if_neg late
        simpa only [letWrite, hmenu, hend] using hgo
  · have idle : l.isDue s.clock → passOver = true := by
      intro hdue
      by_contra hpass
      exact due ⟨hdue, by simpa using hpass⟩
    rw [if_neg (by simpa using idle)]
    unfold expire withoutAnswer
    by_cases late : l.deadline s.timeout ≤ s.clock
    · rw [if_pos (.inl late), if_pos late]
      exact .timedOut ready idle late
    · by_cases newest : s.generation = l.ticket
      · rw [if_neg (by simp [late, newest])]
        exact .waits newest idle (by omega)
      · rw [if_pos (.inr newest), if_neg late]
        exact .superseded newest fun _ => ⟨idle, by omega⟩

theorem letWrite_frame (l : Load) (s : Store) :
    ∃ generation snapshot, s.generation ≤ generation ∧
      s.letWrite l = { s with generation, snapshot } := by
  unfold letWrite
  cases l.fetch.writes with
  | none => exact ⟨s.generation, s.snapshot, Nat.le_refl _, rfl⟩
  | some menu => exact ⟨s.generation + 1, (s.set menu).1, by simp, rfl⟩

theorem tryCommit_frame (l : Load) (menu : List Menu.Entry) (s : Store) :
    (s.tryCommit l menu).2 = { s with snapshot := (s.tryCommit l menu).2.snapshot } := by
  by_cases newest : s.generation = l.ticket <;> simp [tryCommit, commit, newest]

@[simp] theorem pending_tryCommit (l : Load) (menu : List Menu.Entry) (s : Store) :
    (s.tryCommit l menu).2.pending = s.pending := by
  rw [tryCommit_frame]

@[simp] theorem finished_tryCommit (l : Load) (menu : List Menu.Entry) (s : Store) :
    (s.tryCommit l menu).2.finished = s.finished := by
  rw [tryCommit_frame]

@[simp] theorem source_tryCommit (l : Load) (menu : List Menu.Entry) (s : Store) :
    (s.tryCommit l menu).2.source = s.source := by
  rw [tryCommit_frame]

@[simp] theorem timeout_tryCommit (l : Load) (menu : List Menu.Entry) (s : Store) :
    (s.tryCommit l menu).2.timeout = s.timeout := by
  rw [tryCommit_frame]

theorem conclude_frame (l : Load) (s : Store) (outcome : Except FetchFault (List Menu.Entry)) :
    (s.conclude l outcome).2 = { s with snapshot := (s.conclude l outcome).2.snapshot } := by
  unfold conclude
  cases judge outcome with
  | error fault => rfl
  | ok menu => exact tryCommit_frame l menu s

/-- A load that goes on draws tickets and replaces the snapshot at most. -/
theorem poll_frame (race : Race) (passOver : Bool) (l : Load) (s : Store) :
    ∃ generation snapshot, s.generation ≤ generation ∧
      (s.poll race passOver l).2 = { s with generation, snapshot } := by
  have hpolled := polled race passOver l s
  generalize s.poll race passOver l = result at hpolled
  cases hpolled with
  | superseded | timedOut | waits => exact ⟨s.generation, s.snapshot, Nat.le_refl _, rfl⟩
  | wrote => exact ⟨s.generation + 1, _, by simp, rfl⟩
  | answered =>
      obtain ⟨generation, snapshot, hle, hwrite⟩ := letWrite_frame l s
      exact ⟨generation, _, hle, by rw [conclude_frame, hwrite]⟩

theorem poll_waits {race : Race} {passOver : Bool} {t : Store}
    (h : s.poll race passOver l = (none, t)) : t = s := by
  have hpolled := polled race passOver l s
  rw [h] at hpolled
  cases hpolled
  rfl

theorem lt_wakes_iff (l : Load) (clock timeout : Nat) :
    clock < l.wakes timeout ↔ l.isDue clock = false ∧ clock < l.deadline timeout := by
  unfold Load.wakes Load.isDue
  cases l.due with
  | none => simp
  | some t =>
      dsimp only
      rw [Nat.lt_min, decide_eq_false_iff_not, Nat.not_le]

/-- Only what a load finds, not what it looks at first, decides whether it comes to an end. -/
theorem poll_eq_none_iff (race : Race) :
    (s.poll race false l).1 = none ↔ s.generation = l.ticket ∧ s.clock < l.wakes s.timeout := by
  rw [lt_wakes_iff]
  have hpolled := polled race false l s
  generalize s.poll race false l = result at hpolled
  cases hpolled with
  | superseded older => simp [older]
  | answered newest due | wrote newest due => simp [due]
  | timedOut newest idle late => simp [Nat.not_lt.mpr late]
  | waits newest idle early =>
      simp only [newest, early, true_and, and_true, true_iff]
      simpa using idle

theorem letWrite_pending (l : Load) (s : Store) (ls : List Load) :
    ({ s with pending := ls } : Store).letWrite l = { s.letWrite l with pending := ls } := by
  unfold letWrite
  cases l.fetch.writes <;> rfl

theorem tryCommit_pending (l : Load) (menu : List Menu.Entry) (s : Store) (ls : List Load) :
    ({ s with pending := ls } : Store).tryCommit l menu =
      ((s.tryCommit l menu).1, { (s.tryCommit l menu).2 with pending := ls }) := by
  by_cases newest : s.generation = l.ticket <;> simp [tryCommit, commit, newest]

theorem conclude_pending (l : Load) (s : Store) (outcome : Except FetchFault (List Menu.Entry))
    (ls : List Load) :
    ({ s with pending := ls } : Store).conclude l outcome =
      ((s.conclude l outcome).1, { (s.conclude l outcome).2 with pending := ls }) := by
  unfold conclude
  cases judge outcome with
  | error fault => rfl
  | ok menu => exact tryCommit_pending l menu s ls

theorem expire_pending (l : Load) (s : Store) (ls : List Load) :
    ({ s with pending := ls } : Store).expire l =
      ((s.expire l).1, { (s.expire l).2 with pending := ls }) := by
  by_cases h : l.deadline s.timeout ≤ s.clock ∨ s.generation ≠ l.ticket
  · rw [expire, if_pos h, expire, if_pos h]
    rfl
  · rw [expire, if_neg h, expire, if_neg h]

/-- A load goes on without regard to the other ones. -/
theorem poll_pending (race : Race) (passOver : Bool) (l : Load) (s : Store) (ls : List Load) :
    ({ s with pending := ls } : Store).poll race passOver l =
      ((s.poll race passOver l).1, { (s.poll race passOver l).2 with pending := ls }) := by
  simp only [poll, letWrite_pending, conclude_pending, expire_pending]
  split
  · rfl
  · split
    · split <;> rfl
    · rfl

end ConsoleNav.Store
