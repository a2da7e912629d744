import ConsoleNav.Proofs.Store.Interleaving
import ConsoleNav.Proofs.Store.Undisturbed

/-!
When a load that is waited for has ended: waiting goes on to the time of its verdict, and not beyond.
-/
namespace ConsoleNav.Store

variable {s : Store} {l : Load}

/-! ### Time does not go back -/

theorem goOn_clock (race : Race) (passOver : Bool) (l : Load) (s : Store) :
    (s.goOn race passOver l).2.clock = s.clock := by
  obtain ⟨generation, snapshot, -, hframe⟩ := poll_frame race passOver l s
  unfold goOn
  rcases hpoll : s.poll race passOver l with ⟨_ | answer, t⟩ <;> rw [hpoll] at hframe <;>
    subst hframe <;> rfl

theorem turn_clock_le (s : Store) (t : Turn) : s.clock ≤ (s.turn t).2.clock := by
  cases t with
  | set | abort => exact Nat.le_refl _
  | begin =>
    have hclock := goOn_clock .ticket s.enter.1.fetch.yields s.enter.1
      { s.enter.2 with pending := s.enter.2.pending ++ [s.enter.1] }
    exact Nat.le_of_eq hclock.symm
  | resume ticket race =>
    simp only [turn]
    split
    · exact Nat.le_of_eq (goOn_clock _ _ _ _).symm
    · exact Nat.le_refl _
  | take ticket =>
    simp only [turn, take?]
    split <;> exact Nat.le_refl _
  | pass target =>
    simp only [turn, pass]
    split
    · exact Nat.le_max_left _ _
    · exact Nat.le_refl _

theorem turns_clock_le (s : Store) (ts : List Turn) : s.clock ≤ (s.turns ts).2.clock := by
  induction ts generalizing s with
  | nil => exact Nat.le_refl _
  | cons t ts ih => exact Nat.le_trans (turn_clock_le s t) (ih _)

theorem goOn_ended_clock {race : Race} {passOver : Bool} {k : Load} {newest clock : Nat} {answer : Answer}
    (h : .ended l newest clock answer ∈ (s.goOn race passOver k).1) : clock = s.clock := by
  unfold goOn at h
  split at h
  · cases List.mem_singleton.mp h
    rfl
  · cases h

theorem turn_ended_clock {t : Turn} {newest clock : Nat} {answer : Answer}
    (h : .ended l newest clock answer ∈ (s.turn t).1) : clock = s.clock := by
  cases t with
  | begin =>
    rcases List.mem_cons.mp h with h | h
    · cases h
    · exact goOn_ended_clock (s := { s.enter.2 with pending := s.enter.2.pending ++ [s.enter.1] }) h
  | resume ticket race =>
    simp only [turn] at h
    split at h
    · exact goOn_ended_clock h
    · cases h
  | abort ticket =>
    simp only [turn] at h
    split at h
    · cases List.mem_singleton.mp h
    · cases h
  | set menu | take ticket | pass target => cases h

theorem turns_ended_clock {ts : List Turn} {newest clock : Nat} {answer : Answer}
    (h : .ended l newest clock answer ∈ (s.turns ts).1) : clock ≤ (s.turns ts).2.clock := by
  induction ts generalizing s with
  | nil => cases h
  | cons t ts ih =>
    rcases List.mem_append.mp h with h | h
    · rw [turn_ended_clock h]
      exact turns_clock_le s (t :: ts)
    · exact ih h

/-! ### Waiting for an answer -/

theorem pollEach_pending_subset (ls : List Load) (s : Store) :
    ∀ k ∈ (pollEach ls s).pending, k ∈ s.pending ∨ k ∈ ls := by
  induction ls generalizing s with
  | nil => exact fun k hk => .inl hk
  | cons l ls ih =>
    intro k hk
    rcases ih (keep l (s.poll .ticket false l)) k hk with hk | hk
    · rcases keep_cases .ticket false l s with ⟨-, hkeep⟩ | ⟨answer, -, hkeep, -⟩
      · rw [hkeep, List.mem_append, List.mem_singleton] at hk
        rcases hk with hk | rfl
        · exact .inl hk
        · exact .inr List.mem_cons_self
      · rw [hkeep] at hk
        exact .inl hk
    · exact .inr (List.mem_cons_of_mem l hk)

theorem settle_pending_subset (s : Store) : ∀ k ∈ s.settle.pending, k ∈ s.pending := by
  rw [settle]
  induction s.pending.length generalizing s with
  | zero => exact fun k hk => hk
  | succ n ih =>
    intro k hk
    have hround := pollEach_pending_subset s.pending { s with pending := [] } k (ih s.pollAll k hk)
    exact hround.resolve_left List.not_mem_nil

/-- Waiting for a load does not go on beyond the time at which the load has something to do. -/
theorem passUntilEnd_clock_le (fuel : Nat) (hordered : Ordered s) (hl : l ∈ s.pending)
    (hwakes : s.clock ≤ l.wakes s.timeout) :
    (passUntilEnd l.ticket fuel s).clock ≤ l.wakes s.timeout := by
  induction fuel generalizing s with
  | zero => exact hwakes
  | succ fuel ih =>
    have hclock : s.settle.clock ≤ l.wakes s.timeout := by rwa [settle_clock]
    rw [passUntilEnd]
    by_cases hfinished : s.settle.finished.any (·.1 == l.ticket)
    · simpa [hfinished] using hwakes
    · have hopen : IsOpen l.ticket s := .inl ⟨l, hl, rfl⟩
      obtain ⟨k, hk, hticket⟩ := hopen.settle.resolve_right hfinished
      -- The load itself is still pending, so that time passes to its next moment at most.
      have hsame : k = l :=
        List.inj_on_of_nodup_map hordered.distinct (settle_pending_subset s k hk) hl hticket
      rw [hsame] at hk
      simp only [hfinished]
      cases hnext : s.settle.nextWake with
      | none => simpa using hclock
      | some t =>
        have hle := nextWake_le hnext l hk
        have hjump := (settle_drifts hordered).leads.trans
          (pass_nextWake_drifts (settle_isQuiet s) hnext).leads
        have hrest := ih (s := { s.settle with clock := t }) (hordered.leads hjump) hk hle
        rwa [settle_timeout] at hrest

theorem take?_clock {t : Store} {ticket : Nat} {answer : Answer}
    (h : s.take? ticket = some (answer, t)) : t.clock = s.clock := by
  unfold take? at h
  split at h
  · cases h
    rfl
  · cases h

theorem await_clock_le (hordered : Ordered s) (hopen : IsOpen l.ticket s)
    (hsole : ∀ k ∈ s.pending, k.ticket = l.ticket → k = l) (hwakes : s.clock ≤ l.wakes s.timeout) :
    (s.await l.ticket).2.clock ≤ l.wakes s.timeout := by
  unfold await
  split
  · next htake =>
    rw [take?_clock htake]
    exact hwakes
  · next hnone =>
    have hunfinished : ¬ s.finished.any (·.1 == l.ticket) := by
      intro hfinished
      obtain ⟨result, hresult⟩ := take?_isSome hfinished
      rw [hnone] at hresult
      cases hresult
    obtain ⟨k, hk, hticket⟩ := hopen.resolve_right hunfinished
    have hl : l ∈ s.pending := hsole k hk hticket ▸ hk
    have hpass := passUntilEnd_clock_le (s.pending.length + 1) hordered hl hwakes
    dsimp only
    split
    · next htake =>
      rw [take?_clock htake]
      exact hpass
    · exact hpass

/-- Waiting for a load while nobody else is at work takes exactly as long as its verdict says. -/
theorem load_clock {timeout : Nat} {moments : List Moment} (h : Timely timeout moments s)
    (hpatient : Patient s) (hwrites : s.enter.1.fetch.writes = none) :
    s.load.2.clock = (s.enter.1.verdict timeout).1 := by
  have hbegin := turn_begin h.ordered
  have hsole := (undisturbed_begin h hwrites).sole
  have hordered := h.ordered.turn .begin
  have htime := keep_time .ticket s.enter.1.fetch.yields s.enter.1 s.enter.2
  rw [hbegin] at hsole hordered
  have hwakes : s.begin.2.clock ≤ s.enter.1.wakes s.begin.2.timeout := by
    rw [Load.le_wakes_iff, show s.begin.2.clock = s.clock from htime.1]
    exact ⟨Nat.le_add_right _ _, fun _ => Nat.le_add_right _ _⟩
  apply Nat.le_antisymm
  · have hawait := await_clock_le hordered (IsOpen.keep _ _ (.inr rfl)) hsole hwakes
    rw [show s.begin.2.timeout = timeout from htime.2.trans h.limit] at hawait
    exact Nat.le_trans hawait (s.enter.1.wakes_le_verdict timeout)
  · obtain ⟨us, clock, answer, hlast, -, hended, hverdict, -⟩ := load_ended h hpatient hwrites
    rw [← hlast, ← hverdict]
    exact turns_ended_clock hended

/-! ### The source -/

theorem turn_source (s : Store) {t : Turn} (h : t ≠ .begin) : (s.turn t).2.source = s.source := by
  cases t with
  | begin => exact absurd rfl h
  | set | abort => rfl
  | resume ticket race =>
    simp only [turn]
    split
    · exact goOn_source _ _ _ _
    · rfl
  | take ticket =>
    simp only [turn, take?]
    split <;> rfl
  | pass target =>
    simp only [turn, pass]
    split <;> rfl

/-- Only loads that are begun ask the source. -/
theorem turns_source (s : Store) {ts : List Turn} (h : ∀ t ∈ ts, t ≠ .begin) :
    (s.turns ts).2.source = s.source := by
  induction ts generalizing s with
  | nil => rfl
  | cons t ts ih =>
    rw [List.forall_mem_cons] at h
    exact (ih _ h.2).trans (turn_source s h.1)

theorem begin_source (s : Store) : (s.turn .begin).2.source = (s.source.next s.timeout).2 :=
  goOn_source _ _ _ _

theorem load_source (h : Ordered s) : s.load.2.source = (s.source.next s.timeout).2 := by
  have hbegin := turn_begin h
  have hordered := h.turn .begin
  rw [hbegin] at hordered
  obtain ⟨ts, hinner, hts⟩ := await_drifts s.begin.1 hordered
  have hnone : ∀ t ∈ ts, t ≠ .begin := by
    rintro t ht rfl
    exact hinner .begin ht
  calc
    s.load.2.source = (s.begin.2.turns ts).2.source := congrArg Store.source hts.symm
    _ = s.begin.2.source := turns_source s.begin.2 hnone
    _ = _ := by
      rw [← hbegin]
      exact begin_source s

end ConsoleNav.Store
