import ConsoleNav.Proofs.Store.LoadAnswer

/-!
What loads look at first does not count in a session. A session leaves no load behind that has something
to do, so that a load that is overtaken there has nothing but the newer ticket to end it, and two runs of
a step that differ only in what loads look at first are one and the same.
-/
namespace ConsoleNav.Store

/-- Each pending load has something to do later only. -/
def IsAsleep (s : Store) : Prop :=
  ∀ l ∈ s.pending, s.clock < l.wakes s.timeout

/-- Each pending load holds the newest ticket or has something to do later only. -/
def IsUntied (s : Store) : Prop :=
  ∀ l ∈ s.pending, s.generation = l.ticket ∨ s.clock < l.wakes s.timeout

variable {s : Store}

theorem isAsleep_of_isQuiet (h : s.isQuiet) : IsAsleep s :=
  fun l hl => (isQuiet_iff.mp h l hl).2

theorem IsAsleep.mono (h : IsAsleep s) {t : Store} (hpending : t.pending ⊆ s.pending)
    (hclock : t.clock = s.clock) (htimeout : t.timeout = s.timeout) : IsAsleep t := by
  intro l hl
  rw [hclock, htimeout]
  exact h l (hpending hl)

theorem IsUntied.mono (h : IsUntied s) {t : Store} (hpending : t.pending ⊆ s.pending)
    (hgeneration : t.generation = s.generation) (hclock : t.clock = s.clock)
    (htimeout : t.timeout = s.timeout) : IsUntied t := by
  intro l hl
  rw [hgeneration, hclock, htimeout]
  exact h l (hpending hl)

/-! ### One turn -/

/-- The turn in which a load looks at the tickets first. -/
def Turn.ticketFirst : Turn → Turn
  | .resume ticket _ => .resume ticket .ticket
  | t => t

theorem poll_untied {l : Load} (h : s.generation = l.ticket ∨ s.clock < l.wakes s.timeout) (race : Race) :
    s.poll race false l = s.poll .ticket false l := by
  cases race with
  | ticket => rfl
  | source =>
    by_cases newest : s.generation = l.ticket
    · simp [poll, newest]
    · obtain ⟨hdue, hearly⟩ := (lt_wakes_iff l s.clock s.timeout).mp (h.resolve_left newest)
      simp [poll, newest, hdue, expire, withoutAnswer, Nat.not_le.mpr hearly]

theorem turn_ticketFirst (h : IsUntied s) (t : Turn) : s.turn t.ticketFirst = s.turn t := by
  cases t with
  | resume ticket race =>
    simp only [Turn.ticketFirst, turn]
    cases hfind : s.pending.find? (·.ticket == ticket) with
    | none => rfl
    | some l =>
      have hl := h l (List.mem_of_find?_eq_some hfind)
      dsimp only
      rw [goOn, goOn, poll_untied hl race]
  | set | begin | abort | take | pass => rfl

/-- A load draws a ticket only while it holds the newest one, if there is no tie. -/
theorem generation_poll_untied {l : Load} (h : s.generation = l.ticket ∨ s.clock < l.wakes s.timeout)
    (race : Race) (passOver : Bool) :
    s.generation = l.ticket ∨ (s.poll race passOver l).2.generation = s.generation := by
  refine or_iff_not_imp_left.mpr fun older => ?_
  have hearly := (lt_wakes_iff l s.clock s.timeout).mp (h.resolve_left older)
  have hpolled := polled race passOver l s
  generalize s.poll race passOver l = result at hpolled
  cases hpolled with
  | superseded | timedOut | waits => rfl
  | answered ready due | wrote ready due =>
    rw [hearly.1] at due
    cases due

theorem IsUntied.goOn (h : IsUntied s) {l : Load} (hl : l ∈ s.pending) (race : Race) :
    IsUntied (s.goOn race false l).2 := by
  obtain ⟨generation, snapshot, -, hframe⟩ := poll_frame race false l s
  have hgeneration := generation_poll_untied (h l hl) race false
  unfold Store.goOn
  rcases hpoll : s.poll race false l with ⟨_ | answer, t⟩
  · rw [poll_waits hpoll]
    exact h
  · rw [hpoll] at hframe hgeneration
    dsimp only at hframe hgeneration ⊢
    subst hframe
    intro k hk
    obtain ⟨hk, hother⟩ := List.mem_filter.mp hk
    obtain hnewest | hsame := hgeneration
    · refine .inr ((h k hk).resolve_left fun hk' => ?_)
      exact absurd (hk'.symm.trans hnewest) (by simpa using hother)
    · rw [show generation = s.generation from hsame]
      exact h k hk

theorem IsUntied.turn (h : IsUntied s) {t : Turn} (ht : t.isInner) : IsUntied (s.turn t).2 := by
  cases t with
  | set | begin | abort => exact absurd ht id
  | resume ticket race =>
    simp only [Store.turn]
    split
    · next l hfind => exact h.goOn (List.mem_of_find?_eq_some hfind) race
    · exact h
  | take ticket =>
    simp only [Store.turn, take?]
    split
    · exact h.mono (List.Subset.refl _) rfl rfl rfl
    · exact h
  | pass target =>
    simp only [Store.turn, pass]
    split
    · next hquiet => exact fun l hl => .inl (isQuiet_iff.mp hquiet l hl).1
    · exact h

theorem turns_ticketFirst (h : IsUntied s) {ts : List Turn} (hts : ∀ t ∈ ts, t.isInner) :
    s.turns (ts.map Turn.ticketFirst) = s.turns ts := by
  induction ts generalizing s with
  | nil => rfl
  | cons t ts ih =>
    obtain ⟨ht, hrest⟩ := List.forall_mem_cons.mp hts
    have hlater := ih (h.turn ht) hrest
    simp only [List.map_cons, turns, turn_ticketFirst h, hlater]

/-! ### One step -/

theorem begin_untied (h : IsAsleep s) : IsUntied (s.turn .begin).2 := by
  have hframe := poll_frame .ticket s.enter.1.fetch.yields s.enter.1
    { s.enter.2 with pending := s.enter.2.pending ++ [s.enter.1] }
  obtain ⟨generation, snapshot, -, hframe⟩ := hframe
  simp only [Store.turn, Store.goOn]
  rcases hpoll : ({ s.enter.2 with pending := s.enter.2.pending ++ [s.enter.1] } : Store).poll .ticket
    s.enter.1.fetch.yields s.enter.1 with ⟨_ | answer, t⟩
  · dsimp only
    rw [poll_waits hpoll]
    intro l hl
    obtain hl | hl := List.mem_append.mp hl
    · exact .inr (h l hl)
    · rw [List.mem_singleton.mp hl]
      exact .inl rfl
  · rw [hpoll] at hframe
    dsimp only at hframe ⊢
    subst hframe
    intro l hl
    obtain ⟨hl, hother⟩ := List.mem_filter.mp hl
    obtain hl | hl := List.mem_append.mp hl
    · exact .inr (h l hl)
    · rw [List.mem_singleton.mp hl] at hother
      simp at hother

theorem IsAsleep.untied (h : IsAsleep s) : IsUntied s :=
  fun l hl => .inr (h l hl)

theorem turn?_untied {x : Session} (h : IsAsleep x.store) (step : Step) :
    IsUntied (x.store.turns (step.turn? x).toList).2 := by
  cases step with
  | set menu =>
    have hset : IsAsleep (x.store.set menu).2 := h.mono (List.Subset.refl _) rfl rfl
    exact hset.untied
  | load | start id => exact begin_untied h
  | abort id =>
    simp only [Step.turn?]
    cases x.ticket? id with
    | none => exact h.untied
    | some ticket => exact h.untied.mono (List.filter_subset_self _) rfl rfl rfl
  | join | wait | state | find | draw | hold | held => exact h.untied

theorem passUntilEnd_isQuiet (ticket fuel : Nat) {s : Store} (hfuel : s.settle.pending.length < fuel) :
    (passUntilEnd ticket fuel s).isQuiet := by
  induction fuel generalizing s with
  | zero => omega
  | succ fuel ih =>
    rw [passUntilEnd]
    split
    · exact settle_isQuiet s
    · cases hnext : s.settle.nextWake with
      | none => exact settle_isQuiet s
      | some t =>
        have hlt := settle_jump_length_lt hnext
        exact ih (by omega)

theorem IsAsleep.take (h : IsAsleep s) {ticket : Nat} {answer : Answer} {t : Store}
    (htake : s.take? ticket = some (answer, t)) : IsAsleep t := by
  unfold take? at htake
  split at htake
  · cases htake
    exact h.mono (List.Subset.refl _) rfl rfl
  · cases htake

/-- Whoever waits for a load that has not ended yet leaves nothing to be done now. -/
theorem await_asleep {ticket : Nat} (h : s.take? ticket ≠ none → IsAsleep s) :
    IsAsleep (s.await ticket).2 := by
  unfold await
  split
  · next htake => exact (h (by simp [htake])).take htake
  · have hquiet := isAsleep_of_isQuiet
      (passUntilEnd_isQuiet ticket (s.pending.length + 1) (Nat.lt_succ_of_le (settle_length_le s)))
    dsimp only
    split
    · next htake => exact hquiet.take htake
    · exact hquiet

theorem Timely.finished_le {timeout : Nat} {moments : List Moment} (h : Timely timeout moments s)
    {e : Nat × Answer} (he : e ∈ s.finished) : e.1 ≤ s.generation := by
  obtain ⟨l, newest, clock, hticket, hended⟩ := h.replies e he
  rw [← hticket]
  refine h.drawn _ (List.mem_append_right _ ?_)
  exact List.mem_filterMap.mpr ⟨_, hended, rfl⟩

/-- The answer of a load that is begun can be taken at once only if the load has ended at once. -/
theorem begin_asleep {timeout : Nat} {moments : List Moment} (htimely : Timely timeout moments s)
    (h : IsAsleep s) (htake : s.begin.2.take? s.begin.1 ≠ none) : IsAsleep s.begin.2 := by
  obtain ⟨hclock, htimeout⟩ := keep_time .ticket s.enter.1.fetch.yields s.enter.1 s.enter.2
  obtain ⟨-, hwaits⟩ | ⟨answer, -, hpending, -⟩ :=
    keep_cases .ticket s.enter.1.fetch.yields s.enter.1 s.enter.2
  · obtain ⟨⟨found, t⟩, htake⟩ := Option.ne_none_iff_exists'.mp htake
    have hmem : (s.begin.1, found) ∈ s.begin.2.finished := take?_finished htake
    have hbegin : s.begin.2 = _ := hwaits
    rw [hbegin] at hmem
    exact absurd (htimely.finished_le hmem) (Nat.not_succ_le_self _)
  · exact h.mono (fun l hl => hpending ▸ hl) hclock htimeout

theorem step_asleep {timeout : Nat} {moments : List Moment} {x : Session}
    (htimely : Timely timeout moments x.store) (h : IsAsleep x.store) (step : Step) :
    IsAsleep (x.step step).2.store := by
  cases step with
  | set menu => exact h.mono (List.Subset.refl _) rfl rfl
  | load =>
    simp only [Session.step, ofAnswer_snd]
    exact await_asleep (begin_asleep htimely h)
  | start id => exact isAsleep_of_isQuiet (settle_isQuiet _)
  | join id =>
    simp only [Session.step]
    split
    · exact h
    · simp only [ofAnswer_snd]
      exact await_asleep fun _ => h
  | abort id =>
    simp only [Session.step]
    split
    · exact h
    · exact isAsleep_of_isQuiet (settle_isQuiet _)
  | wait millis => exact isAsleep_of_isQuiet (wait_drifts millis htimely.ordered).2.1
  | held id =>
    simp only [Session.step]
    split <;> exact h
  | state | find | draw | hold => exact h

theorem after_asleep {source : Source} {timeout : Nat} {x : Session}
    (hleads : Leads (.fresh source timeout) x.store) (h : IsAsleep x.store) (steps : List Step) :
    IsAsleep (x.after steps).store := by
  induction steps generalizing x with
  | nil => exact h
  | cons step steps ih =>
    have hordered : Ordered x.store := (ordered_fresh source timeout).leads hleads
    obtain ⟨ts, hts⟩ := hleads
    have htimely := timely_turns source timeout ts
    rw [hts] at htimely
    exact ih (Leads.trans ⟨ts, hts⟩ (step_leads hordered step)) (step_asleep htimely h step)

/-- In a session it is the same which of their ends loads look at first: the turns of a step come to the
same, whatever is looked at first in each of them. -/
theorem session_races (source : Source) (timeout : Nat) (steps : List Step) (step : Step) :
    let s := Session.after ⟨.fresh source timeout, [], []⟩ steps
    let own := (step.turn? s).toList
    (∃ us, (∀ u ∈ us, u.isInner) ∧ (s.store.turns (own ++ us)).2 = (s.step step).2.store) ∧
      ∀ us vs, (∀ u ∈ us, u.isInner) → (∀ v ∈ vs, v.isInner) →
        us.map Turn.ticketFirst = vs.map Turn.ticketFirst →
          s.store.turns (own ++ us) = s.store.turns (own ++ vs) := by
  intro s own
  have hfresh : Ordered (Store.fresh source timeout) := ordered_fresh source timeout
  have hordered : Ordered s.store :=
    hfresh.leads (after_leads (s := ⟨.fresh source timeout, [], []⟩) hfresh steps)
  constructor
  · obtain ⟨us, hus, hstep⟩ := step_turns hordered step
    exact ⟨us, hus, by rw [turns_append]; exact hstep⟩
  · intro us vs hus hvs halike
    have hasleep : IsAsleep s.store :=
      after_asleep (x := ⟨.fresh source timeout, [], []⟩) (.refl _)
        (fun l hl => absurd hl List.not_mem_nil) steps
    have huntied : IsUntied (s.store.turns own).2 := turn?_untied hasleep step
    rw [turns_append, turns_append, ← turns_ticketFirst huntied hus, halike,
      turns_ticketFirst huntied hvs]

end ConsoleNav.Store
