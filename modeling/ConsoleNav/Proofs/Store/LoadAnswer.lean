import ConsoleNav.Proofs.Store.Verdict

/-!
Every load that is begun stays pending until it ends with the right answer at the right time, or is
given up. No load is ever slept past: time does not pass while one has something to do.
-/
namespace ConsoleNav.Store

def Moment.gone? : Moment → Option Nat
  | .begun _ => none
  | .ended l _ _ _ => some l.ticket
  | .aborted ticket => some ticket

/-- The tickets of the loads that have ended or were given up, in this order. -/
def gone (moments : List Moment) : List Nat :=
  moments.filterMap Moment.gone?

theorem gone_append_singleton {moments : List Moment} {moment : Moment} {ticket : Nat}
    (h : moment.gone? = some ticket) : gone (moments ++ [moment]) = gone moments ++ [ticket] := by
  simp [gone, h]

/-- The record of a run that has led to a store accounts for all its loads, and no load has been slept
past. -/
structure Timely (timeout : Nat) (moments : List Moment) (s : Store) : Prop where
  limit : s.timeout = timeout
  once : (s.pending.map Load.ticket ++ gone moments).Nodup
  drawn : ∀ ticket ∈ s.pending.map Load.ticket ++ gone moments, ticket ≤ s.generation
  awake : ∀ l ∈ s.pending, s.clock ≤ l.wakes timeout
  known : ∀ l ∈ s.pending, .begun l ∈ moments
  sole : ∀ l k, .begun l ∈ moments → .begun k ∈ moments → l.ticket = k.ticket → l = k
  accounted : ∀ l, .begun l ∈ moments →
    l ∈ s.pending ∨ .aborted l.ticket ∈ moments ∨
      ∃ newest clock answer, .ended l newest clock answer ∈ moments
  ends : ∀ l newest clock answer, .ended l newest clock answer ∈ moments →
    .begun l ∈ moments ∧ ∃ race, l.EndsAs timeout race newest clock answer
  replies : ∀ e ∈ s.finished, ∃ l newest clock,
    l.ticket = e.1 ∧ .ended l newest clock e.2 ∈ moments

/-- Only a store with a positive timeout has pending loads. -/
def Patient (s : Store) : Prop :=
  s.pending ≠ [] → s.timeout ≠ 0

variable {timeout : Nat} {moments : List Moment} {s : Store}

theorem Timely.ordered (h : Timely timeout moments s) : Ordered s where
  distinct := (List.nodup_append'.mp h.once).1
  drawn _ hl := h.drawn _ (List.mem_append_left _ (List.mem_map_of_mem hl))

theorem timely_fresh (source : Source) (timeout : Nat) :
    Timely timeout [] (fresh source timeout) where
  limit := rfl
  once := List.nodup_nil
  drawn _ hticket := absurd hticket List.not_mem_nil
  awake _ hl := absurd hl List.not_mem_nil
  known _ hl := absurd hl List.not_mem_nil
  sole _ _ hl := absurd hl List.not_mem_nil
  accounted _ hbegun := absurd hbegun List.not_mem_nil
  ends _ _ _ _ hended := absurd hended List.not_mem_nil
  replies _ he := absurd he List.not_mem_nil

theorem Timely.begun_le (h : Timely timeout moments s) {l : Load} (hbegun : .begun l ∈ moments) :
    l.ticket ≤ s.generation := by
  apply h.drawn
  rw [List.mem_append]
  rcases h.accounted l hbegun with hl | haborted | ⟨newest, clock, answer, hended⟩
  · exact .inl (List.mem_map_of_mem hl)
  · exact .inr (List.mem_filterMap.mpr ⟨_, haborted, rfl⟩)
  · exact .inr (List.mem_filterMap.mpr ⟨_, hended, rfl⟩)

/-- A pending load is over: it leaves the pending ones, and `moment` says why. -/
theorem Timely.leave {t : Store} {moment : Moment} {ticket : Nat} (h : Timely timeout moments s)
    (hmem : ticket ∈ s.pending.map Load.ticket) (hgone : moment.gone? = some ticket)
    (hpending : t.pending = s.pending.filter (·.ticket != ticket))
    (hgeneration : s.generation ≤ t.generation) (hclock : t.clock = s.clock)
    (htimeout : t.timeout = s.timeout)
    (hwhy : ∀ l ∈ s.pending, l.ticket = ticket →
      moment = .aborted ticket ∨ ∃ newest clock answer, moment = .ended l newest clock answer)
    (hends : ∀ l newest clock answer, moment = .ended l newest clock answer →
      l ∈ s.pending ∧ ∃ race, l.EndsAs timeout race newest clock answer)
    (hreplies : ∀ e ∈ t.finished, e ∈ s.finished ∨
      ∃ l newest clock, l.ticket = e.1 ∧ moment = .ended l newest clock e.2) :
    Timely timeout (moments ++ [moment]) t where
  limit := htimeout.trans h.limit
  once := by
    rw [hpending, map_filter_ne, gone_append_singleton hgone]
    exact (perm_move h.ordered.distinct hmem _).nodup_iff.mpr h.once
  drawn other hother := by
    rw [hpending, map_filter_ne, gone_append_singleton hgone,
      (perm_move h.ordered.distinct hmem _).mem_iff] at hother
    exact Nat.le_trans (h.drawn other hother) hgeneration
  awake l hl := by
    rw [hpending] at hl
    rw [hclock]
    exact h.awake l (List.mem_of_mem_filter hl)
  known l hl := by
    rw [hpending] at hl
    exact List.mem_append_left _ (h.known l (List.mem_of_mem_filter hl))
  sole l k hl hk := by
    have hold (j : Load) (hj : .begun j ∈ moments ++ [moment]) : .begun j ∈ moments := by
      rcases List.mem_append.mp hj with hj | hj
      · exact hj
      · rw [← List.mem_singleton.mp hj] at hgone
        cases hgone
    exact h.sole l k (hold l hl) (hold k hk)
  accounted l hbegun := by
    simp only [List.mem_append, List.mem_singleton] at hbegun ⊢
    rcases hbegun with hbegun | rfl
    · rcases h.accounted l hbegun with hl | haborted | ⟨newest, clock, answer, hended⟩
      · by_cases hticket : l.ticket = ticket
        · rcases hwhy l hl hticket with rfl | ⟨newest, clock, answer, rfl⟩
          · exact .inr (.inl (.inr (by rw [hticket])))
          · exact .inr (.inr ⟨newest, clock, answer, .inr rfl⟩)
        · rw [hpending]
          exact .inl (List.mem_filter.mpr ⟨hl, bne_iff_ne.mpr hticket⟩)
      · exact .inr (.inl (.inl haborted))
      · exact .inr (.inr ⟨newest, clock, answer, .inl hended⟩)
    · exact absurd hgone (by simp [Moment.gone?])
  ends l newest clock answer hended := by
    rcases List.mem_append.mp hended with hended | hended
    · obtain ⟨hbegun, hends⟩ := h.ends l newest clock answer hended
      exact ⟨List.mem_append_left _ hbegun, hends⟩
    · obtain ⟨hl, hends⟩ := hends l newest clock answer (List.mem_singleton.mp hended).symm
      exact ⟨List.mem_append_left _ (h.known l hl), hends⟩
  replies e he := by
    simp only [List.mem_append, List.mem_singleton]
    rcases hreplies e he with he | ⟨l, newest, clock, hticket, hmoment⟩
    · obtain ⟨l, newest, clock, hticket, hended⟩ := h.replies e he
      exact ⟨l, newest, clock, hticket, .inl hended⟩
    · exact ⟨l, newest, clock, hticket, .inr hmoment.symm⟩

theorem Timely.goOn (race : Race) (passOver : Bool) {l : Load} (h : Timely timeout moments s)
    (hl : l ∈ s.pending)
    (hpass : passOver → s.generation = l.ticket ∧ l.fetch.yields ∧ s.clock = l.begun)
    (hstay : passOver = false → l.fetch.yields → timeout ≠ 0) :
    Timely timeout (moments ++ (s.goOn race passOver l).1) (s.goOn race passOver l).2 := by
  obtain ⟨generation, snapshot, hle, hframe⟩ := poll_frame race passOver l s
  unfold Store.goOn
  rcases hpoll : s.poll race passOver l with ⟨_ | answer, t⟩
  · rw [poll_waits hpoll, List.append_nil]
    exact h
  · have hends := poll_endsAs h.limit (h.ordered.drawn l hl) (h.awake l hl) hpass hstay hpoll
    rw [hpoll] at hframe
    simp only at hframe
    subst hframe
    refine h.leave (List.mem_map_of_mem hl) rfl rfl hle rfl rfl ?_ ?_ ?_
    · intro k hk hticket
      have hsame : k = l := List.inj_on_of_nodup_map h.ordered.distinct hk hl hticket
      exact .inr ⟨s.generation, s.clock, answer, by rw [hsame]⟩
    · rintro k newest clock answer ⟨⟩
      exact ⟨hl, race, hends⟩
    · intro e he
      rcases List.mem_append.mp he with he | he
      · exact .inl he
      · rw [List.mem_singleton.mp he]
        exact .inr ⟨l, _, _, rfl, rfl⟩

theorem Timely.mono {t : Store} (h : Timely timeout moments s) (hpending : t.pending = s.pending)
    (hgeneration : s.generation ≤ t.generation) (htimeout : t.timeout = s.timeout)
    (hawake : ∀ l ∈ s.pending, t.clock ≤ l.wakes timeout)
    (hfinished : ∀ e ∈ t.finished, e ∈ s.finished) : Timely timeout moments t where
  limit := htimeout.trans h.limit
  once := hpending ▸ h.once
  drawn ticket hticket := Nat.le_trans (h.drawn ticket (hpending ▸ hticket)) hgeneration
  awake l hl := hawake l (hpending ▸ hl)
  known l hl := h.known l (hpending ▸ hl)
  sole := h.sole
  accounted l hbegun := by
    rw [hpending]
    exact h.accounted l hbegun
  ends := h.ends
  replies e he := h.replies e (hfinished e he)

theorem Timely.enter (h : Timely timeout moments s) :
    Timely timeout (moments ++ [.begun s.enter.1])
      { s.enter.2 with pending := s.enter.2.pending ++ [s.enter.1] } where
  limit := h.limit
  once := by
    have hnew : s.generation + 1 ∉ s.pending.map Load.ticket ++ gone moments := by
      intro hmem
      have := h.drawn _ hmem
      omega
    have hperm : (s.pending.map Load.ticket ++ (s.generation + 1) :: gone moments).Nodup :=
      List.nodup_middle.mpr (List.nodup_cons.mpr ⟨hnew, h.once⟩)
    have hgone : gone (moments ++ [.begun s.enter.1]) = gone moments := by
      simp [gone, Moment.gone?]
    rw [hgone, List.map_append, List.append_assoc]
    exact hperm
  drawn ticket hticket := by
    change ticket ≤ s.generation + 1
    simp only [gone, List.filterMap_append, List.map_append, List.mem_append] at hticket
    have hold := h.drawn ticket
    simp only [gone, List.mem_append] at hold
    rcases hticket with (hticket | hticket) | hticket | hticket
    · exact Nat.le_succ_of_le (hold (.inl hticket))
    · exact Nat.le_of_eq (List.mem_singleton.mp hticket)
    · exact Nat.le_succ_of_le (hold (.inr hticket))
    · exact absurd hticket List.not_mem_nil
  awake l hl := by
    rcases List.mem_append.mp hl with hl | hl
    · exact h.awake l hl
    · rw [List.mem_singleton.mp hl, Load.le_wakes_iff]
      exact ⟨Nat.le_add_right _ _, fun _ => Nat.le_add_right _ _⟩
  known l hl := by
    rw [List.mem_append]
    rcases List.mem_append.mp hl with hl | hl
    · exact .inl (h.known l hl)
    · exact .inr (List.mem_singleton.mpr (congrArg Moment.begun (List.mem_singleton.mp hl)))
  sole l k hl hk hsame := by
    simp only [List.mem_append, List.mem_singleton, Moment.begun.injEq] at hl hk
    have hnew : s.enter.1.ticket = s.generation + 1 := rfl
    rcases hl with hl | rfl <;> rcases hk with hk | rfl
    · exact h.sole l k hl hk hsame
    · have := h.begun_le hl
      omega
    · have := h.begun_le hk
      omega
    · rfl
  accounted l hbegun := by
    simp only [List.mem_append, List.mem_singleton, reduceCtorEq, or_false] at hbegun ⊢
    rcases hbegun with hbegun | hbegun
    · rcases h.accounted l hbegun with hl | hgone
      · exact .inl (.inl hl)
      · exact .inr hgone
    · exact .inl (.inr (Moment.begun.inj hbegun))
  ends l newest clock answer hended := by
    obtain ⟨hbegun, hends⟩ := h.ends l newest clock answer (by simpa using hended)
    exact ⟨List.mem_append_left _ hbegun, hends⟩
  replies e he := by
    obtain ⟨l, newest, clock, hticket, hended⟩ := h.replies e he
    exact ⟨l, newest, clock, hticket, List.mem_append_left _ hended⟩

theorem pass_clock_le {target clock : Nat} {l : Load} (hl : l ∈ s.pending)
    (hclock : s.clock ≤ l.wakes s.timeout)
    (hpass : clock = max s.clock ((s.nextWake.map (min target)).getD target)) :
    clock ≤ l.wakes s.timeout := by
  cases hnext : s.nextWake with
  | none => simp [pending_of_nextWake hnext] at hl
  | some t =>
      have := nextWake_le hnext l hl
      simp only [hnext, Option.map_some, Option.getD_some] at hpass
      omega

theorem Timely.abort (h : Timely timeout moments s) (ticket : Nat) :
    Timely timeout (moments ++ (s.turn (.abort ticket)).1) (s.turn (.abort ticket)).2 := by
  have hfinished : ∀ e ∈ (s.abort ticket).2.finished, e ∈ s.finished :=
    fun e he => List.mem_of_mem_filter he
  by_cases hmem : ticket ∈ s.pending.map Load.ticket
  · have hturn : (s.turn (.abort ticket)).1 = [.aborted ticket] := if_pos (any_ticket_iff.mpr hmem)
    rw [hturn]
    refine h.leave hmem rfl rfl (Nat.le_refl _) rfl rfl ?_ ?_ ?_
    · exact fun _ _ _ => .inl rfl
    · rintro l newest clock answer ⟨⟩
    · exact fun e he => .inl (hfinished e he)
  · have hturn : (s.turn (.abort ticket)).1 = [] := if_neg (mt any_ticket_iff.mp hmem)
    rw [hturn, List.append_nil]
    exact h.mono (filter_ne_of_not_mem hmem) (Nat.le_refl _) rfl h.awake hfinished

theorem Patient.mono {t : Store} (h : Patient s) (hpending : t.pending.Sublist s.pending)
    (htimeout : t.timeout = s.timeout) : Patient t := by
  intro hne
  rw [htimeout]
  apply h
  intro hempty
  rw [hempty] at hpending
  exact hne (List.sublist_nil.mp hpending)

theorem goOn_timeout (race : Race) (passOver : Bool) (l : Load) (s : Store) :
    (s.goOn race passOver l).2.timeout = s.timeout := by
  obtain ⟨generation, snapshot, -, hframe⟩ := poll_frame race passOver l s
  unfold goOn
  rcases hpoll : s.poll race passOver l with ⟨_ | answer, t⟩ <;> rw [hpoll] at hframe <;>
    subst hframe <;> rfl

/-- A load that has been begun stays pending only if the timeout is positive. -/
theorem begin_patient (hordered : Ordered s) (h : Patient s) : Patient s.begin.2 := by
  have hkeep := keep_cases .ticket s.enter.1.fetch.yields s.enter.1 s.enter.2
  have htimeout : s.begin.2.timeout = s.timeout := by
    rw [← turn_begin hordered]
    exact goOn_timeout _ _ _ _
  intro hne
  rw [htimeout]
  rcases hkeep with ⟨hwaits, -⟩ | ⟨answer, -, hpending, -⟩
  · have hpolled := polled .ticket s.enter.1.fetch.yields s.enter.1 s.enter.2
    generalize s.enter.2.poll .ticket s.enter.1.fetch.yields s.enter.1 = result at hwaits hpolled
    cases hpolled with
    | waits newest idle early =>
        intro hzero
        have hlast : s.enter.1.deadline s.enter.2.timeout = s.enter.2.clock := by
          change s.clock + s.timeout = s.clock
          omega
        omega
    | superseded | answered | wrote | timedOut => cases hwaits
  · apply h
    intro hempty
    exact hne (hpending.trans hempty)

theorem Patient.turn (hordered : Ordered s) (h : Patient s) (t : Turn) : Patient (s.turn t).2 := by
  cases t with
  | set menu => exact h
  | begin =>
      rw [turn_begin hordered]
      exact begin_patient hordered h
  | resume ticket race =>
      simp only [Store.turn]
      split
      · exact h.mono (goOn_frame _ _ _ _).1 (goOn_timeout _ _ _ _)
      · exact h
  | abort ticket => exact h.mono List.filter_sublist rfl
  | take ticket =>
      simp only [Store.turn, take?]
      split <;> exact h
  | pass target =>
      simp only [Store.turn, pass]
      split <;> exact h

theorem Timely.turn (h : Timely timeout moments s) (hpatient : Patient s) (t : Turn) :
    Timely timeout (moments ++ (s.turn t).1) (s.turn t).2 := by
  cases t with
  | set menu =>
      simp only [Store.turn, List.append_nil]
      exact h.mono rfl (Nat.le_succ _) rfl h.awake fun _ he => he
  | begin =>
      have hmem : s.enter.1 ∈ s.enter.2.pending ++ [s.enter.1] := by simp
      -- Only now, in the turn in which it is begun, may a load be passed over.
      have hgo := h.enter.goOn .ticket s.enter.1.fetch.yields hmem
        (fun hyields => ⟨rfl, hyields, rfl⟩) (fun hnot hyields => absurd hyields (by simp [hnot]))
      rw [List.append_assoc] at hgo
      exact hgo
  | resume ticket race =>
      simp only [Store.turn]
      split
      · rename_i l hfind
        have hl := List.mem_of_find?_eq_some hfind
        refine h.goOn race false hl (fun hpass => absurd hpass (by simp)) (fun _ _ => ?_)
        rw [← h.limit]
        exact hpatient (List.ne_nil_of_mem hl)
      · simpa using h
  | abort ticket => exact h.abort ticket
  | take ticket =>
      simp only [Store.turn, List.append_nil, take?]
      split
      · exact h.mono rfl (Nat.le_refl _) rfl h.awake fun _ he => List.mem_of_mem_filter he
      · exact h
  | pass target =>
      simp only [Store.turn, List.append_nil, pass]
      split
      · refine h.mono rfl (Nat.le_refl _) rfl (fun l hl => ?_) fun _ he => he
        rw [← h.limit]
        exact pass_clock_le hl (by rw [h.limit]; exact h.awake l hl) rfl
      · exact h

theorem Timely.turns (h : Timely timeout moments s) (hpatient : Patient s) (ts : List Turn) :
    Timely timeout (moments ++ (s.turns ts).1) (s.turns ts).2 := by
  induction ts generalizing moments s with
  | nil => simpa [Store.turns] using h
  | cons t ts ih =>
      have := ih (h.turn hpatient t) (hpatient.turn h.ordered t)
      simpa [Store.turns] using this

theorem Patient.turns (hordered : Ordered s) (h : Patient s) (ts : List Turn) :
    Patient (s.turns ts).2 := by
  induction ts generalizing s with
  | nil => exact h
  | cons t ts ih => exact ih (hordered.turn t) (h.turn hordered t)

/-! ### All runs -/

theorem timely_turns (source : Source) (timeout : Nat) (ts : List Turn) :
    Timely timeout ((fresh source timeout).turns ts).1 ((fresh source timeout).turns ts).2 := by
  have hpatient : Patient (fresh source timeout) := fun hne => absurd rfl hne
  exact (timely_fresh source timeout).turns hpatient ts

theorem begun_begin (s : Store) :
    ∃ later, (s.turn .begin).1 =
      .begun ⟨s.generation + 1, (s.source.next s.timeout).1, s.clock⟩ :: later :=
  ⟨_, rfl⟩

theorem Timely.resume_overtaken (h : Timely timeout moments s) (hpatient : Patient s) {l : Load}
    (hl : l ∈ s.pending) (holder : s.generation ≠ l.ticket) (race : Race) :
    (s.turn (.resume l.ticket race)).1 =
      [.ended l s.generation s.clock (.error (l.overtaken timeout s.clock race))] := by
  have hfind := find?_of_nodup h.ordered.distinct hl
  have hstay : timeout ≠ 0 := h.limit ▸ hpatient (List.ne_nil_of_mem hl)
  have hpoll := poll_overtaken race h.limit (h.ordered.drawn l hl) (h.awake l hl) (fun _ => hstay) holder
  simp only [Store.turn, hfind, Store.goOn]
  rcases hresult : s.poll race false l with ⟨_ | answer, t⟩ <;> rw [hresult] at hpoll
  · cases hpoll
  · cases hpoll
    rfl

theorem Timely.early (h : Timely timeout moments s) (hquiet : s.isQuiet) {l : Load}
    (hl : l ∈ s.pending) : s.generation = l.ticket ∧ s.clock < l.begun + timeout := by
  obtain ⟨hnewest, hclock⟩ := isQuiet_iff.mp hquiet l hl
  rw [h.limit, lt_wakes_iff] at hclock
  exact ⟨hnewest, hclock.2⟩

/-- A session passes through stores that are reached in turns, and answers for the load that it waits
for. -/
theorem session_turns (source : Source) (timeout : Nat) (steps : List Step) (step : Step) :
    let s := Session.after ⟨.fresh source timeout, [], []⟩ steps
    ∃ ts us, (∀ t ∈ us, t.isInner) ∧
      ((fresh source timeout).turns ts).2 = s.store ∧
      (s.store.turns ((step.turn? s).toList ++ us)).2 = (s.step step).2.store ∧
      ∀ answer, (s.step step).1 = .answered answer →
        ∃ l newest clock, step.awaited? s = some l.ticket ∧
          .ended l newest clock answer ∈
            ((fresh source timeout).turns (ts ++ ((step.turn? s).toList ++ us))).1 := by
  intro s
  have hfresh : Ordered (Store.fresh source timeout) := ordered_fresh source timeout
  have hafter : Leads (.fresh source timeout) s.store :=
    after_leads (s := ⟨.fresh source timeout, [], []⟩) hfresh steps
  have hordered := hfresh.leads hafter
  obtain ⟨ts, hts⟩ := hafter
  by_cases hreply : ∃ answer, (s.step step).1 = .answered answer
  · obtain ⟨answer, hanswer⟩ := hreply
    obtain ⟨t, ticket, hawaited, ⟨us, hus, rfl⟩, hmem, vs, hvs, hlast⟩ :=
      step_finished hordered hanswer
    refine ⟨ts, us ++ vs, List.forall_mem_append.mpr ⟨hus, hvs⟩, hts, ?_, fun other hother => ?_⟩
    · rw [turns_append, turns_append]
      exact hlast
    · cases hanswer.symm.trans hother
      have hreached : (ticket, answer) ∈
          ((fresh source timeout).turns (ts ++ ((step.turn? s).toList ++ us))).2.finished := by
        rw [turns_append, hts, turns_append]
        exact hmem
      obtain ⟨l, newest, clock, hticket, hended⟩ := (timely_turns source timeout _).replies _ hreached
      refine ⟨l, newest, clock, hawaited.trans (congrArg some hticket.symm), ?_⟩
      rw [← List.append_assoc, ← List.append_assoc, turns_append, List.append_assoc]
      exact List.mem_append_left _ hended
  · obtain ⟨us, hus, hlast⟩ := step_turns hordered step
    refine ⟨ts, us, hus, hts, ?_, fun answer hanswer => absurd ⟨answer, hanswer⟩ hreply⟩
    rw [turns_append]
    exact hlast

/-- What a load answers, and when. -/
theorem load_answer (source : Source) (timeout : Nat) :
    (∀ steps step,
      let s := Session.after ⟨.fresh source timeout, [], []⟩ steps
      (∀ id, step = .start id → (s.step step).2.ticket? id = some (s.store.generation + 1)) ∧
      (∀ id, step ≠ .start id → (s.step step).2.ticket? id = s.ticket? id) ∧
      ∃ ts us, (∀ t ∈ us, t.isInner) ∧
        ((fresh source timeout).turns ts).2 = s.store ∧
        (s.store.turns ((step.turn? s).toList ++ us)).2 = (s.step step).2.store ∧
        ∀ answer, (s.step step).1 = .answered answer →
          ∃ l newest clock, step.awaited? s = some l.ticket ∧
            .ended l newest clock answer ∈
              ((fresh source timeout).turns (ts ++ ((step.turn? s).toList ++ us))).1) ∧
    (∀ s : Store, (∃ answer, s.load.1 = some answer) ∧ s.start.2.isQuiet) ∧
    ∀ ts,
      let moments := ((fresh source timeout).turns ts).1
      let s := ((fresh source timeout).turns ts).2
      (∃ later, (s.turn .begin).1 =
        .begun ⟨s.generation + 1, (s.source.next timeout).1, s.clock⟩ :: later) ∧
      (∀ l, .begun l ∈ moments →
        l ∈ s.pending ∨ .aborted l.ticket ∈ moments ∨
          ∃ newest clock answer, .ended l newest clock answer ∈ moments) ∧
      (∀ l k, .begun l ∈ moments → .begun k ∈ moments → l.ticket = k.ticket → l = k) ∧
      (s.pending.map Load.ticket ++ gone moments).Nodup ∧
      (∀ l newest clock answer, .ended l newest clock answer ∈ moments →
        .begun l ∈ moments ∧ (∃ race, l.EndsAs timeout race newest clock answer) ∧
          clock ≤ l.begun + timeout) ∧
      (∀ l ∈ s.pending,
        (s.generation ≠ l.ticket → ∀ race,
          (s.turn (.resume l.ticket race)).1 =
            [.ended l s.generation s.clock (.error (l.overtaken timeout s.clock race))]) ∧
        (s.isQuiet → s.generation = l.ticket ∧ s.clock < l.begun + timeout)) ∧
      ∀ millis, (s.wait millis).isQuiet ∧ (s.wait millis).clock = s.clock + millis := by
  refine ⟨fun steps step => ?_, fun s => ⟨load_isSome s, settle_isQuiet _⟩, fun ts => ?_⟩
  · intro s
    exact ⟨fun id => (step_ticket? s step id).1, fun id => (step_ticket? s step id).2,
      session_turns source timeout steps step⟩
  intro moments s
  have h : Timely timeout moments s := timely_turns source timeout ts
  have hpatient : Patient s :=
    Patient.turns (ordered_fresh source timeout) (fun hne => absurd rfl hne) ts
  refine ⟨?_, h.accounted, h.sole, h.once, ?_, fun l hl => ⟨?_, ?_⟩, fun millis => ?_⟩
  · rw [← h.limit]
    exact begun_begin s
  · intro l newest clock answer hended
    obtain ⟨hbegun, race, hends⟩ := h.ends l newest clock answer hended
    exact ⟨hbegun, ⟨race, hends⟩, hends.clock_le⟩
  · exact h.resume_overtaken hpatient hl
  · exact fun hquiet => h.early hquiet hl
  · exact (wait_drifts millis h.ordered).2

/-- The source of a load fails at the moment at which a newer ticket has been drawn: either one may end the
load. -/
example :
    let s := fresh (.script [{ delay := 100, outcome := some (.error (.undecodable "?")) }]) 1000
    let before := (s.turns [.begin, .pass 100, .set []]).2
    (before.turn (.resume 1 .source)).2.finished = [(1, .error (.fetch (.undecodable "?")))] ∧
      (before.turn (.resume 1 .ticket)).2.finished = [(1, .error .superseded)] :=
  ⟨rfl, rfl⟩

/-- A source that writes and never answers, at the very moment of the deadline: a newer ticket is
drawn while the load is pending, and still the load does not end as one that was superseded. -/
theorem timedOut_despite_newer_ticket :
    let s := fresh (.script
      [{ delay := 100, writes := some [{ id := "A", name := "B" }], outcome := none }]) 100
    let before := (s.turns [.begin, .pass 100]).2
    let after := (before.turn (.resume 1 .ticket)).2
    before.pending.map Load.ticket = [1] ∧ before.generation = 1 ∧ before.clock = 100 ∧
      after.generation = 2 ∧ after.snapshot.menu = [{ id := "A", name := "B" }] ∧
      after.finished = [(1, .error (.fetch (.timedOut 100)))] ∧
      s.load.1 = some (.error (.fetch (.timedOut 100))) :=
  ⟨rfl, rfl, rfl, rfl, rfl, rfl, rfl⟩

end ConsoleNav.Store
