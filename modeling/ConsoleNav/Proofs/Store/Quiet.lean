import ConsoleNav.Proofs.Store.Turn

/-!
Settling a store: letting its loads go on until none can without time passing. Every round ends a load
or finds the store quiet, so that the rounds suffice, and so do the jumps of time.
-/
namespace ConsoleNav.Store

theorem isQuiet_iff {s : Store} :
    s.isQuiet ↔
      ∀ l ∈ s.pending, s.generation = l.ticket ∧ s.clock < l.wakes s.timeout := by
  simp [isQuiet, poll_eq_none_iff]

theorem isQuiet_iff_poll {s : Store} :
    s.isQuiet ↔ ∀ l ∈ s.pending, (s.poll .ticket false l).1 = none := by
  simp [isQuiet]

theorem keep_cases (race : Race) (passOver : Bool) (l : Load) (s : Store) :
    ((s.poll race passOver l).1 = none ∧
      keep l (s.poll race passOver l) = { s with pending := s.pending ++ [l] }) ∨
    (∃ answer, (s.poll race passOver l).1 = some answer ∧
      (keep l (s.poll race passOver l)).pending = s.pending ∧
      (keep l (s.poll race passOver l)).finished = s.finished ++ [(l.ticket, answer)]) := by
  obtain ⟨generation, snapshot, -, hframe⟩ := poll_frame race passOver l s
  rcases hpoll : s.poll race passOver l with ⟨_ | answer, t⟩ <;> rw [hpoll] at hframe
  · rw [poll_waits hpoll]
    exact .inl ⟨rfl, rfl⟩
  · simp only at hframe
    subst hframe
    exact .inr ⟨answer, rfl, rfl, rfl⟩

theorem keep_time (race : Race) (passOver : Bool) (l : Load) (s : Store) :
    (keep l (s.poll race passOver l)).clock = s.clock ∧
      (keep l (s.poll race passOver l)).timeout = s.timeout := by
  obtain ⟨generation, snapshot, -, hframe⟩ := poll_frame race passOver l s
  rcases hpoll : s.poll race passOver l with ⟨_ | answer, t⟩ <;> rw [hpoll] at hframe <;>
    subst hframe <;> exact ⟨rfl, rfl⟩

theorem pollEach_time (ls : List Load) (s : Store) :
    (pollEach ls s).clock = s.clock ∧ (pollEach ls s).timeout = s.timeout := by
  induction ls generalizing s with
  | nil => exact ⟨rfl, rfl⟩
  | cons l ls ih =>
      obtain ⟨hclock, htimeout⟩ := ih (keep l (s.poll .ticket false l))
      rw [(keep_time .ticket false l s).1] at hclock
      rw [(keep_time .ticket false l s).2] at htimeout
      exact ⟨hclock, htimeout⟩

theorem pollEach_of_waits (ls : List Load) (s : Store) (h : ∀ l ∈ ls, (s.poll .ticket false l).1 = none) :
    pollEach ls s = { s with pending := s.pending ++ ls } := by
  induction ls generalizing s with
  | nil => simp [pollEach]
  | cons l ls ih =>
      rcases keep_cases .ticket false l s with ⟨-, hkeep⟩ | ⟨answer, hanswer, -⟩
      · rw [pollEach, hkeep, ih]
        · simp
        · intro k hk
          rw [poll_pending]
          exact h k (List.mem_cons_of_mem l hk)
      · rw [h l List.mem_cons_self] at hanswer
        exact absurd hanswer (by simp)

theorem pollEach_length_le (ls : List Load) (s : Store) :
    (pollEach ls s).pending.length ≤ s.pending.length + ls.length := by
  induction ls generalizing s with
  | nil => exact Nat.le_refl _
  | cons l ls ih =>
      have hrest := ih (keep l (s.poll .ticket false l))
      rw [List.length_cons]
      rcases keep_cases .ticket false l s with ⟨-, hkeep⟩ | ⟨answer, -, hkeep, -⟩ <;>
        rw [hkeep] at hrest <;> rw [pollEach]
      · rw [hkeep]
        simp only [List.length_append, List.length_singleton] at hrest
        omega
      · omega

theorem pollEach_length_lt (ls : List Load) (s : Store)
    (h : ¬ ∀ l ∈ ls, (s.poll .ticket false l).1 = none) :
    (pollEach ls s).pending.length < s.pending.length + ls.length := by
  induction ls generalizing s with
  | nil => exact absurd (by simp) h
  | cons l ls ih =>
      rw [List.length_cons, pollEach]
      rcases keep_cases .ticket false l s with ⟨hnone, hkeep⟩ | ⟨answer, -, hkeep, -⟩
      · have hrest : ¬ ∀ k ∈ ls, (s.poll .ticket false k).1 = none := by
          intro hall
          exact h (List.forall_mem_cons.mpr ⟨hnone, hall⟩)
        rw [hkeep]
        have := ih { s with pending := s.pending ++ [l] } (by simpa only [poll_pending] using hrest)
        simp only [List.length_append, List.length_singleton] at this
        omega
      · have := pollEach_length_le ls (keep l (s.poll .ticket false l))
        rw [hkeep] at this
        omega

theorem pollAll_of_isQuiet {s : Store} (h : s.isQuiet) : s.pollAll = s := by
  rw [pollAll, pollEach_of_waits]
  · simp
  · simpa only [poll_pending] using isQuiet_iff_poll.mp h

theorem pollAll_length_lt {s : Store} (h : ¬ s.isQuiet) :
    s.pollAll.pending.length < s.pending.length := by
  have := pollEach_length_lt s.pending { s with pending := [] }
    (by simpa only [poll_pending, ← isQuiet_iff_poll] using h)
  simpa [pollAll] using this

theorem pollAll_length_le (s : Store) : s.pollAll.pending.length ≤ s.pending.length := by
  simpa [pollAll] using pollEach_length_le s.pending { s with pending := [] }

theorem pollTimes_of_isQuiet (n : Nat) {s : Store} (h : s.isQuiet) : pollTimes n s = s := by
  induction n with
  | zero => rfl
  | succ n ih => rw [pollTimes, pollAll_of_isQuiet h, ih]

theorem pollTimes_length_le (n : Nat) (s : Store) :
    (pollTimes n s).pending.length ≤ s.pending.length := by
  induction n generalizing s with
  | zero => exact Nat.le_refl _
  | succ n ih => exact Nat.le_trans (ih s.pollAll) (pollAll_length_le s)

theorem pollTimes_isQuiet (n : Nat) (s : Store) (h : s.pending.length ≤ n) :
    (pollTimes n s).isQuiet := by
  induction n generalizing s with
  | zero =>
      have hempty : s.pending = [] := List.eq_nil_of_length_eq_zero (Nat.le_zero.mp h)
      simp [pollTimes, isQuiet, hempty]
  | succ n ih =>
      by_cases hquiet : s.isQuiet
      · rwa [pollTimes_of_isQuiet _ hquiet]
      · exact ih _ (by have := pollAll_length_lt hquiet; omega)

theorem pollTimes_time (n : Nat) (s : Store) :
    (pollTimes n s).clock = s.clock ∧ (pollTimes n s).timeout = s.timeout := by
  induction n generalizing s with
  | zero => exact ⟨rfl, rfl⟩
  | succ n ih =>
      obtain ⟨hclock, htimeout⟩ := ih s.pollAll
      obtain ⟨hclock', htimeout'⟩ := pollEach_time s.pending { s with pending := [] }
      exact ⟨hclock.trans hclock', htimeout.trans htimeout'⟩

theorem settle_isQuiet (s : Store) : s.settle.isQuiet :=
  pollTimes_isQuiet _ s (Nat.le_refl _)

@[simp] theorem settle_clock (s : Store) : s.settle.clock = s.clock :=
  (pollTimes_time _ s).1

@[simp] theorem settle_timeout (s : Store) : s.settle.timeout = s.timeout :=
  (pollTimes_time _ s).2

theorem settle_length_lt {s : Store} (h : ¬ s.isQuiet) :
    s.settle.pending.length < s.pending.length := by
  have hall := pollAll_length_lt h
  obtain ⟨n, hn⟩ : ∃ n, s.pending.length = n + 1 := ⟨s.pending.length - 1, by omega⟩
  rw [settle, hn, pollTimes]
  have := pollTimes_length_le n s.pollAll
  omega

/-! ### Time -/

theorem nextWake_le {s : Store} {t : Nat} (h : s.nextWake = some t) :
    ∀ l ∈ s.pending, t ≤ l.wakes s.timeout := by
  intro l hl
  exact (List.min?_eq_some_iff.mp h).2 _ (List.mem_map_of_mem hl)

theorem exists_nextWake {s : Store} {t : Nat} (h : s.nextWake = some t) :
    ∃ l ∈ s.pending, l.wakes s.timeout = t := by
  exact List.mem_map.mp (List.min?_eq_some_iff.mp h).1

theorem pending_of_nextWake {s : Store} (h : s.nextWake = none) : s.pending = [] := by
  simpa [nextWake] using h

theorem lt_nextWake {s : Store} (hquiet : s.isQuiet) {t : Nat} (h : s.nextWake = some t) :
    s.clock < t := by
  obtain ⟨l, hl, rfl⟩ := exists_nextWake h
  exact (isQuiet_iff.mp hquiet l hl).2

/-- At the time at which a load has something to do, the store is not quiet any more. -/
theorem not_isQuiet_of_nextWake {s : Store} {t : Nat} (h : s.nextWake = some t) :
    ¬ ({ s with clock := t } : Store).isQuiet := by
  obtain ⟨l, hl, rfl⟩ := exists_nextWake h
  intro hquiet
  exact absurd (isQuiet_iff.mp hquiet l hl).2 (Nat.lt_irrefl _)

theorem pass_nextWake_drifts {s : Store} (hquiet : s.isQuiet) {t : Nat} (h : s.nextWake = some t) :
    Drifts s { s with clock := t } := by
  have hlt := lt_nextWake hquiet h
  refine ⟨[.pass t], List.forall_mem_singleton.mpr trivial, ?_⟩
  simp [turns, turn, pass, hquiet, h, Nat.max_eq_right (Nat.le_of_lt hlt)]

/-- The store to which `target` is the next thing to happen. -/
theorem pass_target_drifts (target : Nat) {s : Store} (hquiet : s.isQuiet) (hle : s.clock ≤ target)
    (hbefore : ∀ t, s.nextWake = some t → target < t) :
    Drifts s { s with clock := target } ∧ ({ s with clock := target } : Store).isQuiet := by
  constructor
  · refine ⟨[.pass target], List.forall_mem_singleton.mpr trivial, ?_⟩
    simp only [turns, turn, pass, hquiet, if_true]
    cases hnext : s.nextWake with
    | none => simp [Nat.max_eq_right hle]
    | some t =>
        have := hbefore t hnext
        have hmax : max s.clock (min target t) = target := by omega
        simp [hmax]
  · rw [isQuiet_iff] at hquiet ⊢
    intro l hl
    refine ⟨(hquiet l hl).1, ?_⟩
    cases hnext : s.nextWake with
    | none => simp [pending_of_nextWake hnext] at hl
    | some t => exact Nat.lt_of_lt_of_le (hbefore t hnext) (nextWake_le hnext l hl)

theorem settle_jump_length_lt {s : Store} {t : Nat} (h : s.nextWake = some t) :
    ({ s with clock := t } : Store).settle.pending.length < s.pending.length :=
  settle_length_lt (not_isQuiet_of_nextWake h)

theorem passUntil_drifts (target fuel : Nat) {s : Store} (h : Ordered s) (hle : s.clock ≤ target)
    (hfuel : s.settle.pending.length < fuel) :
    Drifts s (passUntil target fuel s) ∧ (passUntil target fuel s).isQuiet ∧
      (passUntil target fuel s).clock = target := by
  -- Each jump ends a load at least, so that there is fuel for as many jumps as there are loads.
  induction fuel generalizing s with
  | zero => omega
  | succ fuel ih =>
      have hsettle := settle_drifts h
      have hquiet := settle_isQuiet s
      rw [passUntil]
      cases hnext : s.settle.nextWake with
      | none =>
          have hpass := pass_target_drifts target hquiet (by simpa using hle)
            (by simp [hnext])
          exact ⟨hsettle.trans hpass.1, hpass.2, by simp⟩
      | some t =>
          by_cases ht : t ≤ target
          · simp only [ht, if_true]
            have hjump := hsettle.trans (pass_nextWake_drifts hquiet hnext)
            have hlt := settle_jump_length_lt hnext
            obtain ⟨hdrifts, hend⟩ := ih (h.leads hjump.leads) ht (by omega)
            exact ⟨hjump.trans hdrifts, hend⟩
          · simp only [ht, if_false]
            have hpass := pass_target_drifts target hquiet (by simpa using hle)
              (by rintro u hu; rw [hnext] at hu; cases hu; omega)
            exact ⟨hsettle.trans hpass.1, hpass.2, by simp⟩

theorem settle_length_le (s : Store) : s.settle.pending.length ≤ s.pending.length :=
  pollTimes_length_le _ s

theorem wait_drifts (millis : Nat) {s : Store} (h : Ordered s) :
    Drifts s (s.wait millis) ∧ (s.wait millis).isQuiet ∧
      (s.wait millis).clock = s.clock + millis :=
  passUntil_drifts _ _ h (Nat.le_add_right _ _) (Nat.lt_succ_of_le (settle_length_le s))

theorem passUntilEnd_drifts (ticket fuel : Nat) {s : Store} (h : Ordered s) :
    Drifts s (passUntilEnd ticket fuel s) := by
  induction fuel generalizing s with
  | zero => exact Reaches.refl s
  | succ fuel ih =>
      have hsettle := settle_drifts h
      rw [passUntilEnd]
      split
      · exact hsettle
      · cases hnext : s.settle.nextWake with
        | none => exact hsettle
        | some t =>
            have hjump := hsettle.trans (pass_nextWake_drifts (settle_isQuiet s) hnext)
            exact hjump.trans (ih (h.leads hjump.leads))

end ConsoleNav.Store
