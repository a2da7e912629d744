import ConsoleNav.Proofs.Store.Quiet

/-!
Sessions in turns: every store that a session passes through is reached from its first one in turns,
and whoever waits for a load gets an answer.
-/
namespace ConsoleNav.Store

theorem turn_begin {s : Store} (h : Ordered s) : (s.turn .begin).2 = s.begin.2 := by
  have hother : s.enter.1.ticket ∉ (s.enter.2.pending ++ []).map Load.ticket := by
    have hdistinct := h.enter.distinct
    rw [List.map_append, List.map_singleton, List.nodup_append'] at hdistinct
    rw [List.append_nil]
    exact List.disjoint_singleton.mp hdistinct.2.2
  have hkeep := goOn_eq_keep .ticket s.enter.1.fetch.yields s.enter.1 s.enter.2 [] hother
  rw [List.append_nil] at hkeep
  exact hkeep

theorem begin_leads {s : Store} (h : Ordered s) : Leads s s.begin.2 := by
  rw [← turn_begin h]
  exact .single s .begin

theorem take?_drifts {s t : Store} {ticket : Nat} {answer : Answer}
    (h : s.take? ticket = some (answer, t)) : Drifts s t :=
  ⟨[.take ticket], List.forall_mem_singleton.mpr trivial, by simp [turns, turn, h]⟩

theorem await_drifts (ticket : Nat) {s : Store} (h : Ordered s) : Drifts s (s.await ticket).2 := by
  unfold await
  split
  · rename_i htake
    exact take?_drifts htake
  · have hpass := passUntilEnd_drifts ticket (s.pending.length + 1) h
    dsimp only
    split
    · rename_i htake
      exact hpass.trans (take?_drifts htake)
    · exact hpass

theorem ofAnswer_snd (result : Option Answer × Store) : (Session.ofAnswer result).2 = result.2 := by
  rcases result with ⟨_ | answer, store⟩ <;> rfl

/-- A turn that a session may take in a step: only the step itself sets a menu. -/
def Turn.isIn (step : Step) : Turn → Prop
  | .set menu => step = .set menu
  | _ => True

theorem Drifts.isIn {s t : Store} (h : Drifts s t) (step : Step) : Reaches (Turn.isIn step) s t := by
  refine h.mono fun t ht => ?_
  cases t with
  | set menu => exact absurd ht id
  | begin | resume | abort | take | pass => trivial

/-- The turn that a step of a session takes by itself, before its store is left to itself. -/
def Step.turn? (s : Session) : Step → Option Turn
  | .set menu => some (.set menu)
  | .load | .start _ => some .begin
  | .abort id => (s.ticket? id).map .abort
  | .join _ | .wait _ | .state | .find _ | .draw | .hold _ | .held _ => none

theorem step_turns {s : Session} (h : Ordered s.store) (step : Step) :
    Drifts (s.store.turns (step.turn? s).toList).2 (s.step step).2.store := by
  have hbegin : (s.store.turns [.begin]).2 = s.store.begin.2 := turn_begin h
  cases step with
  | set menu => exact .refl _
  | load =>
      simp only [Session.step, ofAnswer_snd]
      exact hbegin ▸ await_drifts s.store.begin.1 (h.leads (begin_leads h))
  | start id => exact hbegin ▸ settle_drifts (h.leads (begin_leads h))
  | join id =>
      simp only [Session.step]
      split
      · exact .refl _
      · simp only [ofAnswer_snd]
        exact await_drifts _ h
  | abort id =>
      simp only [Session.step, Step.turn?]
      cases s.ticket? id with
      | none => exact .refl _
      | some ticket => exact settle_drifts (h.leads (.single s.store (.abort ticket)))
  | wait millis => exact (wait_drifts millis h).1
  | held id =>
      simp only [Session.step]
      split <;> exact .refl _
  | state | find | draw | hold => exact .refl _

theorem step_reaches {s : Session} (h : Ordered s.store) (step : Step) :
    Reaches (Turn.isIn step) s.store (s.step step).2.store := by
  have hown : Reaches (Turn.isIn step) s.store (s.store.turns (step.turn? s).toList).2 := by
    refine ⟨_, ?_, rfl⟩
    intro t ht
    cases step with
    | set menu =>
        cases List.mem_singleton.mp ht
        rfl
    | load | start id =>
        cases List.mem_singleton.mp ht
        trivial
    | abort id =>
        obtain ⟨ticket, -, rfl⟩ := Option.map_eq_some_iff.mp (Option.mem_toList.mp ht)
        trivial
    | join | wait | state | find | draw | hold | held => cases ht
  exact hown.trans ((step_turns h step).isIn step)

theorem step_leads {s : Session} (h : Ordered s.store) (step : Step) :
    Leads s.store (s.step step).2.store :=
  (step_reaches h step).leads

/-- The session after some steps. -/
def Session.after (s : Session) (steps : List Step) : Session :=
  steps.foldl (fun s step => (s.step step).2) s

theorem after_leads {s : Session} (h : Ordered s.store) (steps : List Step) :
    Leads s.store (s.after steps).store := by
  induction steps generalizing s with
  | nil => exact .refl _
  | cons step steps ih =>
      have hstep := step_leads h step
      exact hstep.trans (ih (h.leads hstep))

/-! ### Waiting for an answer -/

theorem take?_finished {s t : Store} {ticket : Nat} {answer : Answer}
    (h : s.take? ticket = some (answer, t)) : (ticket, answer) ∈ s.finished := by
  unfold take? at h
  split at h
  · rename_i other found hfind
    have hticket : other = ticket := by simpa using List.find?_some hfind
    cases h
    exact hticket ▸ List.mem_of_find?_eq_some hfind
  · cases h

theorem await_finished {s : Store} (h : Ordered s) {ticket : Nat} {answer : Answer}
    (hanswer : (s.await ticket).1 = some answer) :
    ∃ t, Drifts s t ∧ (ticket, answer) ∈ t.finished ∧ Drifts t (s.await ticket).2 := by
  unfold await at hanswer ⊢
  split at hanswer
  · rename_i htake
    cases hanswer
    exact ⟨s, .refl s, take?_finished htake, take?_drifts htake⟩
  · have hpass := passUntilEnd_drifts ticket (s.pending.length + 1) h
    dsimp only at hanswer ⊢
    split at hanswer
    · rename_i htake
      cases hanswer
      exact ⟨_, hpass, take?_finished htake, take?_drifts htake⟩
    · cases hanswer

theorem answered_ofAnswer {result : Option Answer × Store} {answer : Answer}
    (h : (Session.ofAnswer result).1 = .answered answer) : result.1 = some answer := by
  rcases result with ⟨_ | other, store⟩ <;> cases h
  rfl

/-- The ticket of the load whose answer a step waits for. -/
def Step.awaited? (s : Session) : Step → Option Nat
  | .load => some (s.store.generation + 1)
  | .join id => s.ticket? id
  | .set _ | .start _ | .abort _ | .wait _ | .state | .find _ | .draw | .hold _ | .held _ => none

/-- Whatever a step answers is the answer of the load that it waits for, which has ended. -/
theorem step_finished {s : Session} (h : Ordered s.store) {step : Step} {answer : Answer}
    (hreply : (s.step step).1 = .answered answer) :
    ∃ t ticket, step.awaited? s = some ticket ∧
      Drifts (s.store.turns (step.turn? s).toList).2 t ∧ (ticket, answer) ∈ t.finished ∧
      Drifts t (s.step step).2.store := by
  have hbegin : (s.store.turns [.begin]).2 = s.store.begin.2 := turn_begin h
  cases step with
  | load =>
      obtain ⟨t, hdrifts, hmem, hrest⟩ :=
        await_finished (h.leads (begin_leads h)) (answered_ofAnswer hreply)
      refine ⟨t, _, rfl, hbegin ▸ hdrifts, hmem, ?_⟩
      simp only [Session.step, ofAnswer_snd]
      exact hrest
  | join id =>
      simp only [Session.step] at hreply ⊢
      split at hreply
      · cases hreply
      · next ticket hticket =>
        obtain ⟨t, hdrifts, hmem, hrest⟩ := await_finished h (answered_ofAnswer hreply)
        refine ⟨t, ticket, hticket, hdrifts, hmem, ?_⟩
        simp only [ofAnswer_snd]
        exact hrest
  | abort id | held id =>
      simp only [Session.step] at hreply
      split at hreply <;> cases hreply
  | set | start | wait | state | find | draw | hold => cases hreply

/-- A background load keeps its ticket under its name until another one is started under it. -/
theorem step_ticket? (s : Session) (step : Step) (id : String) :
    (step = .start id → (s.step step).2.ticket? id = some (s.store.generation + 1)) ∧
      (step ≠ .start id → (s.step step).2.ticket? id = s.ticket? id) := by
  cases step with
  | start other =>
      constructor
      · rintro ⟨⟩
        exact List.lookup_cons_self
      · intro hother
        have hne : (id == other) = false := beq_false_of_ne fun h => hother (by rw [h])
        simp [Session.step, Session.ticket?, List.lookup_cons, hne]
  | abort other | join other | held other =>
      refine ⟨fun h => (nomatch h), fun _ => ?_⟩
      simp only [Session.step]
      split <;> rfl
  | set | load | wait | state | find | draw | hold => exact ⟨fun h => (nomatch h), fun _ => rfl⟩

/-- A load that is pending or whose answer has not been taken. -/
def IsOpen (ticket : Nat) (s : Store) : Prop :=
  (∃ l ∈ s.pending, l.ticket = ticket) ∨ s.finished.any (·.1 == ticket)

theorem IsOpen.keep {ticket : Nat} {l : Load} {s : Store} (race : Race) (passOver : Bool)
    (h : IsOpen ticket s ∨ l.ticket = ticket) : IsOpen ticket (keep l (s.poll race passOver l)) := by
  rcases keep_cases race passOver l s with ⟨-, hkeep⟩ | ⟨answer, -, hpending, hfinished⟩
  · rw [hkeep]
    rcases h with (⟨k, hk, rfl⟩ | h) | rfl
    · exact .inl ⟨k, by simp [hk], rfl⟩
    · exact .inr h
    · exact .inl ⟨l, by simp, rfl⟩
  · unfold IsOpen
    rw [hpending, hfinished, List.any_append]
    rcases h with (h | h) | rfl
    · exact .inl h
    · exact .inr (by simp [h])
    · exact .inr (by simp)

theorem isOpen_pollEach {ticket : Nat} (ls : List Load) (s : Store)
    (h : IsOpen ticket s ∨ ∃ l ∈ ls, l.ticket = ticket) : IsOpen ticket (pollEach ls s) := by
  induction ls generalizing s with
  | nil => simpa [pollEach] using h
  | cons l ls ih =>
      apply ih
      rcases h with h | ⟨k, hk, hticket⟩
      · exact .inl (IsOpen.keep .ticket false (.inl h))
      · rcases List.mem_cons.mp hk with rfl | hk
        · exact .inl (IsOpen.keep .ticket false (.inr hticket))
        · exact .inr ⟨k, hk, hticket⟩

theorem IsOpen.settle {ticket : Nat} {s : Store} (h : IsOpen ticket s) : IsOpen ticket s.settle := by
  rw [Store.settle]
  induction s.pending.length generalizing s with
  | zero => exact h
  | succ n ih =>
      apply ih
      apply isOpen_pollEach
      rcases h with h | h
      · exact .inr h
      · exact .inl (.inr h)

theorem passUntilEnd_finished {ticket : Nat} (fuel : Nat) {s : Store} (h : IsOpen ticket s)
    (hfuel : s.settle.pending.length < fuel) :
    (passUntilEnd ticket fuel s).finished.any (·.1 == ticket) := by
  induction fuel generalizing s with
  | zero => omega
  | succ fuel ih =>
      rw [passUntilEnd]
      by_cases hfinished : s.settle.finished.any (·.1 == ticket)
      · simp [hfinished]
      · obtain ⟨l, hl, hticket⟩ := h.settle.resolve_right hfinished
        simp only [hfinished]
        cases hnext : s.settle.nextWake with
        | none => simp [pending_of_nextWake hnext] at hl
        | some t =>
            have hlt := settle_jump_length_lt hnext
            exact ih (.inl ⟨l, hl, hticket⟩) (by omega)

theorem take?_isSome {ticket : Nat} {s : Store} (h : s.finished.any (·.1 == ticket)) :
    ∃ result, s.take? ticket = some result := by
  obtain ⟨e, he, hticket⟩ := List.any_eq_true.mp h
  cases hfind : s.finished.find? (·.1 == ticket) with
  | none => exact absurd hticket (by simpa using List.find?_eq_none.mp hfind e he)
  | some e => simp only [take?, hfind, Option.some.injEq, exists_eq']

theorem await_isSome {ticket : Nat} {s : Store} (h : IsOpen ticket s) :
    ∃ answer, (s.await ticket).1 = some answer := by
  unfold await
  split
  · exact ⟨_, rfl⟩
  · obtain ⟨⟨answer, t⟩, htake⟩ := take?_isSome
      (passUntilEnd_finished (s.pending.length + 1) h (Nat.lt_succ_of_le (settle_length_le s)))
    exact ⟨answer, by simp [htake]⟩

/-- Whoever loads the menu gets an answer. -/
theorem load_isSome (s : Store) : ∃ answer, s.load.1 = some answer :=
  await_isSome (IsOpen.keep _ _ (.inr rfl))

end ConsoleNav.Store
