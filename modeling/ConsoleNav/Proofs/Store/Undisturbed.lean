import ConsoleNav.Proofs.Store.LoadAnswer

/-!
A load during which nobody else draws a ticket. As long as the newest ticket stays the same, only the
load that holds it can change the snapshot, and it does so once at most.
-/
namespace ConsoleNav.Store

theorem conclude_snapshot (l : Load) (s : Store) (outcome : Except FetchFault (List Menu.Entry)) :
    (s.conclude l outcome).2 =
      { s with snapshot := (s.conclude l outcome).1.toOption.getD s.snapshot } := by
  unfold conclude
  cases judge outcome with
  | error fault => rfl
  | ok menu =>
    by_cases newest : s.generation = l.ticket
    · simp [tryCommit, newest, commit, Except.toOption]
    · simp [tryCommit, newest, Except.toOption]

/-- A load whose source writes nothing by itself touches nothing but the snapshot. -/
theorem poll_plain {race : Race} {l : Load} {s : Store} (h : race.ready l s → l.fetch.writes = none)
    (passOver : Bool) :
    s.poll race passOver l = (none, s) ∨
      ∃ answer, s.poll race passOver l =
        (some answer, { s with snapshot := answer.toOption.getD s.snapshot }) := by
  have hpolled := polled race passOver l s
  generalize s.poll race passOver l = result at hpolled
  cases hpolled with
  | superseded | timedOut => exact .inr ⟨_, rfl⟩
  | waits => exact .inl rfl
  | wrote ready due here hangs writes =>
    rw [h ready] at writes
    cases writes
  | @answered ready due here outcome given =>
    have hsame : s.letWrite l = s := by rw [letWrite, h ready]
    rw [hsame]
    exact .inr ⟨(s.conclude l outcome).1, by rw [← conclude_snapshot]⟩

/-- A load that has been overtaken and draws no ticket changes nothing. -/
theorem poll_older {race : Race} {passOver : Bool} {l : Load} {s : Store}
    (older : s.generation ≠ l.ticket)
    (hsame : (s.poll race passOver l).2.generation = s.generation) :
    ∃ fault, s.poll race passOver l = (some (.error fault), s) := by
  have hpolled := polled race passOver l s
  generalize s.poll race passOver l = result at hpolled hsame
  cases hpolled with
  | superseded | timedOut => exact ⟨_, rfl⟩
  | waits newest => exact absurd newest older
  | wrote ready due here hangs writes => exact absurd hsame (Nat.succ_ne_self _)
  | @answered ready due here outcome given =>
    rw [conclude_frame] at hsame
    have hplain : s.letWrite l = s := by
      cases hwrites : l.fetch.writes with
      | none => rw [letWrite, hwrites]
      | some menu =>
        rw [letWrite, hwrites] at hsame
        exact absurd hsame (Nat.succ_ne_self _)
    rw [hplain, conclude]
    cases judge outcome with
    | error fault => exact ⟨fault, rfl⟩
    | ok menu => exact ⟨.superseded, by simp [tryCommit, older]⟩

section Ends

variable {k l : Load} {s : Store} {newest clock : Nat} {answer : Answer}

theorem goOn_generation (race : Race) (passOver : Bool) (l : Load) (s : Store) :
    (s.goOn race passOver l).2.generation = (s.poll race passOver l).2.generation := by
  unfold goOn
  rcases s.poll race passOver l with ⟨_ | answer, t⟩ <;> rfl

theorem eq_of_ended_goOn {race : Race} {passOver : Bool}
    (h : .ended l newest clock answer ∈ (s.goOn race passOver k).1) : l = k := by
  unfold goOn at h
  split at h
  · cases List.mem_singleton.mp h
    rfl
  · cases h

theorem goOn_snapshot {race : Race} {passOver : Bool}
    (h : .ended l newest clock answer ∈ (s.goOn race passOver k).1)
    (hwrites : l.fetch.writes = none) :
    (s.goOn race passOver k).2.snapshot = answer.toOption.getD s.snapshot := by
  cases eq_of_ended_goOn h
  unfold goOn at h ⊢
  rcases poll_plain (fun _ => hwrites) passOver with hpoll | ⟨answer', hpoll⟩
  · rw [hpoll] at h
    exact absurd h List.not_mem_nil
  · rw [hpoll] at h ⊢
    cases List.mem_singleton.mp h
    rfl

/-- In the turn in which it ends, a load leaves its answer as the snapshot, if it has one. -/
theorem turn_snapshot {t : Turn} (h : .ended l newest clock answer ∈ (s.turn t).1)
    (hwrites : l.fetch.writes = none) :
    (s.turn t).2.snapshot = answer.toOption.getD s.snapshot := by
  cases t with
  | begin =>
    rcases List.mem_cons.mp h with h | h
    · cases h
    · exact goOn_snapshot h hwrites
  | resume ticket race =>
    simp only [turn] at h ⊢
    split at h
    · exact goOn_snapshot h hwrites
    · cases h
  | abort ticket =>
    simp only [turn] at h
    split at h
    · cases List.mem_singleton.mp h
    · cases h
  | set menu | take ticket | pass target => cases h

end Ends

section Generation

/-- No source of a load with the newest ticket writes by itself. -/
def Passive (s : Store) : Prop :=
  ∀ l ∈ s.pending, s.generation = l.ticket → l.fetch.writes = none

theorem keep_plain {l : Load} {s : Store} (h : s.generation = l.ticket → l.fetch.writes = none)
    (passOver : Bool) :
    (keep l (s.poll .ticket passOver l)).generation = s.generation ∧
      ∀ k ∈ (keep l (s.poll .ticket passOver l)).pending, k ∈ s.pending ∨ k = l := by
  rcases poll_plain (h ∘ Race.ready_ticket.mp) passOver with hpoll | ⟨answer, hpoll⟩
  · rw [hpoll]
    refine ⟨rfl, fun k hk => ?_⟩
    simpa [keep] using hk
  · rw [hpoll]
    exact ⟨rfl, fun k hk => .inl hk⟩

theorem pollEach_plain {ls : List Load} {s : Store}
    (h : ∀ l ∈ ls, s.generation = l.ticket → l.fetch.writes = none) :
    (pollEach ls s).generation = s.generation ∧
      ∀ k ∈ (pollEach ls s).pending, k ∈ s.pending ∨ k ∈ ls := by
  induction ls generalizing s with
  | nil => exact ⟨rfl, fun k hk => .inl hk⟩
  | cons l ls ih =>
    rw [List.forall_mem_cons] at h
    obtain ⟨hgeneration, hpending⟩ := keep_plain h.1 false
    obtain ⟨hrest, hleft⟩ := ih (s := keep l (s.poll .ticket false l)) (by rw [hgeneration]; exact h.2)
    refine ⟨hrest.trans hgeneration, fun k hk => ?_⟩
    rcases hleft k hk with hk | hk
    · rcases hpending k hk with hk | rfl
      · exact .inl hk
      · exact .inr List.mem_cons_self
    · exact .inr (List.mem_cons_of_mem l hk)

theorem Passive.pollTimes {s : Store} (h : Passive s) (n : Nat) :
    Passive (pollTimes n s) ∧ (pollTimes n s).generation = s.generation := by
  induction n generalizing s with
  | zero => exact ⟨h, rfl⟩
  | succ n ih =>
    obtain ⟨hgeneration, hpending⟩ := pollEach_plain (s := { s with pending := [] }) h
    have hpassive : Passive s.pollAll := by
      intro l hl hnewest
      have hold := (hpending l hl).resolve_left List.not_mem_nil
      exact h l hold (hgeneration.symm.trans hnewest)
    obtain ⟨hrest, hsame⟩ := ih hpassive
    exact ⟨hrest, hsame.trans hgeneration⟩

theorem Passive.passUntilEnd {s : Store} (h : Passive s) (ticket fuel : Nat) :
    (passUntilEnd ticket fuel s).generation = s.generation := by
  induction fuel generalizing s with
  | zero => rfl
  | succ fuel ih =>
    obtain ⟨hpassive, hgeneration⟩ := h.pollTimes s.pending.length
    rw [Store.passUntilEnd]
    split
    · exact hgeneration
    · split
      · next t _ => exact (ih (s := { s.settle with clock := t }) hpassive).trans hgeneration
      · exact hgeneration

theorem take?_generation {s t : Store} {ticket : Nat} {answer : Answer}
    (h : s.take? ticket = some (answer, t)) : t.generation = s.generation := by
  unfold take? at h
  split at h
  · cases h
    rfl
  · cases h

theorem Passive.await {s : Store} (h : Passive s) (ticket : Nat) :
    (s.await ticket).2.generation = s.generation := by
  unfold Store.await
  split
  · next htake => exact take?_generation htake
  · dsimp only
    have hpass := h.passUntilEnd ticket (s.pending.length + 1)
    split
    · next htake => exact (take?_generation htake).trans hpass
    · exact hpass

end Generation

section Turns

variable {l : Load} {before : Snapshot} {moments : List Moment} {s : Store}

/-- Where a load stands as long as no newer ticket than its own is drawn. -/
inductive Course (l : Load) (before : Snapshot) (moments : List Moment) (s : Store) : Prop
  | running (unended : ∀ k newest clock answer, k.ticket = l.ticket →
        .ended k newest clock answer ∉ moments)
      (same : s.snapshot = before)
  | finished {clock : Nat} {answer : Answer} (ended : .ended l l.ticket clock answer ∈ moments)
      (left : s.snapshot = answer.toOption.getD before)
      (gone : ∀ k ∈ s.pending, k.ticket ≠ l.ticket)

/-- A load that nobody disturbs: it is the only one with its ticket, and its source does not write. -/
structure Undisturbed (l : Load) (before : Snapshot) (moments : List Moment) (s : Store) : Prop where
  drawn : l.ticket ≤ s.generation
  sole : ∀ k ∈ s.pending, k.ticket = l.ticket → k = l
  passive : l.fetch.writes = none
  course : s.generation = l.ticket → Course l before moments s

theorem Course.add (h : Course l before moments s) {t : Store} {added : List Moment}
    (hadded : ∀ k newest clock answer, .ended k newest clock answer ∈ added → k.ticket ≠ l.ticket)
    (hsnapshot : t.snapshot = s.snapshot) (hpending : ∀ k ∈ t.pending, k ∈ s.pending) :
    Course l before (moments ++ added) t := by
  cases h with
  | running unended same =>
    refine .running (fun k newest clock answer hk hmem => ?_) (hsnapshot.trans same)
    rcases List.mem_append.mp hmem with hmem | hmem
    · exact unended k newest clock answer hk hmem
    · exact hadded k newest clock answer hmem hk
  | finished ended left gone =>
    exact .finished (List.mem_append_left _ ended) (hsnapshot.trans left) fun k hk => gone k (hpending k hk)

theorem Undisturbed.goOn (h : Undisturbed l before moments s) {k : Load} (hk : k ∈ s.pending)
    (race : Race) (passOver : Bool) :
    Undisturbed l before (moments ++ (s.goOn race passOver k).1) (s.goOn race passOver k).2 := by
  obtain ⟨hpending, hgeneration⟩ := goOn_frame race passOver k s
  refine ⟨Nat.le_trans h.drawn hgeneration, fun j hj => h.sole j (hpending.subset hj), h.passive, ?_⟩
  intro hnewest
  have hstill : s.generation = l.ticket := Nat.le_antisymm (hnewest ▸ hgeneration) h.drawn
  have hcourse := h.course hstill
  by_cases hticket : k.ticket = l.ticket
  · -- The load itself goes on.
    cases h.sole k hk hticket
    unfold Store.goOn
    rcases poll_plain (fun _ => h.passive) passOver with hpoll | ⟨answer, hpoll⟩
    · rw [hpoll, List.append_nil]
      exact hcourse
    · cases hcourse with
      | running unended same =>
        have hended : Moment.ended l l.ticket s.clock answer ∈
            moments ++ [.ended l s.generation s.clock answer] := by simp [hstill]
        rw [hpoll]
        refine .finished hended ?_ ?_
        · rw [← same]
          rfl
        · intro j hj hsame
          have := (List.mem_filter.mp hj).2
          simp [hsame] at this
      | finished ended left gone => exact absurd rfl (gone l hk)
  · have holder : s.generation ≠ k.ticket := fun hsame => hticket (hsame.symm.trans hstill)
    have hsame : (s.poll race passOver k).2.generation = s.generation := by
      rw [← goOn_generation]
      exact hnewest.trans hstill.symm
    obtain ⟨fault, hother⟩ := poll_older holder hsame
    unfold Store.goOn
    rw [hother]
    refine hcourse.add (fun j newest clock answer hmem => ?_) rfl
      (fun j hj => List.mem_of_mem_filter hj)
    cases List.mem_singleton.mp hmem
    exact hticket

/-- Where no load ends and no ticket is drawn, nothing changes for the load. -/
theorem Undisturbed.idle (h : Undisturbed l before moments s) {t : Store} {added : List Moment}
    (hadded : ∀ k newest clock answer, .ended k newest clock answer ∉ added)
    (hgeneration : t.generation = s.generation) (hsnapshot : t.snapshot = s.snapshot)
    (hpending : ∀ k ∈ t.pending, k ∈ s.pending) : Undisturbed l before (moments ++ added) t where
  drawn := hgeneration ▸ h.drawn
  sole k hk := h.sole k (hpending k hk)
  passive := h.passive
  course hnewest := by
    refine (h.course (hgeneration ▸ hnewest)).add ?_ hsnapshot hpending
    exact fun k newest clock answer hmem => absurd hmem (hadded k newest clock answer)

theorem Undisturbed.turn (h : Undisturbed l before moments s) (t : Turn) :
    Undisturbed l before (moments ++ (s.turn t).1) (s.turn t).2 := by
  have hnone : ∀ k newest clock answer, Moment.ended k newest clock answer ∉ [] :=
    fun _ _ _ _ => List.not_mem_nil
  cases t with
  | set menu =>
    refine ⟨Nat.le_succ_of_le h.drawn, h.sole, h.passive, fun hnewest => ?_⟩
    have : s.generation + 1 = l.ticket := hnewest
    have := h.drawn
    omega
  | begin =>
    obtain ⟨hpending, hgeneration⟩ := goOn_frame .ticket s.enter.1.fetch.yields s.enter.1
      { s.enter.2 with pending := s.enter.2.pending ++ [s.enter.1] }
    have hnewer : l.ticket < (s.turn .begin).2.generation :=
      Nat.lt_of_lt_of_le (Nat.lt_succ_of_le h.drawn) hgeneration
    refine ⟨Nat.le_of_lt hnewer, fun k hk hticket => ?_, h.passive, fun hnewest => ?_⟩
    · rcases List.mem_append.mp (hpending.subset hk) with hk | hk
      · exact h.sole k hk hticket
      · rw [List.mem_singleton.mp hk] at hticket
        have : s.generation + 1 = l.ticket := hticket
        have := h.drawn
        omega
    · omega
  | resume ticket race =>
    simp only [Store.turn]
    split
    · next k hfind => exact h.goOn (List.mem_of_find?_eq_some hfind) race false
    · exact h.idle hnone rfl rfl fun _ hk => hk
  | abort ticket =>
    refine h.idle ?_ rfl rfl fun k hk => List.mem_of_mem_filter hk
    intro k newest clock answer hmem
    simp only [Store.turn] at hmem
    split at hmem
    · cases List.mem_singleton.mp hmem
    · cases hmem
  | take ticket =>
    simp only [Store.turn, take?]
    split <;> exact h.idle hnone rfl rfl fun _ hk => hk
  | pass target =>
    simp only [Store.turn, pass]
    split <;> exact h.idle hnone rfl rfl fun _ hk => hk

theorem Undisturbed.turns (h : Undisturbed l before moments s) (ts : List Turn) :
    Undisturbed l before (moments ++ (s.turns ts).1) (s.turns ts).2 := by
  induction ts generalizing moments s with
  | nil => simpa [Store.turns] using h
  | cons t ts ih => simpa [Store.turns] using ih (h.turn t)

/-- No load has ended with a ticket that has not been drawn yet. -/
theorem Timely.not_ended {timeout : Nat} (h : Timely timeout moments s) {k : Load}
    (hnew : s.generation < k.ticket) (newest clock : Nat) (answer : Answer) :
    .ended k newest clock answer ∉ moments := by
  intro hmem
  have hgone : k.ticket ∈ gone moments := List.mem_filterMap.mpr ⟨_, hmem, rfl⟩
  have := h.drawn k.ticket (List.mem_append_right _ hgone)
  omega

theorem undisturbed_begin {timeout : Nat} (h : Timely timeout moments s)
    (hwrites : s.enter.1.fetch.writes = none) :
    Undisturbed s.enter.1 s.snapshot (moments ++ (s.turn .begin).1) (s.turn .begin).2 := by
  have hnew : ∀ k ∈ s.pending, k.ticket ≠ s.generation + 1 := by
    intro k hk hticket
    have := h.ordered.drawn k hk
    omega
  have hentered : Undisturbed s.enter.1 s.snapshot (moments ++ [.begun s.enter.1])
      { s.enter.2 with pending := s.enter.2.pending ++ [s.enter.1] } := by
    refine ⟨Nat.le_refl _, fun k hk hticket => ?_, hwrites, fun _ => .running ?_ rfl⟩
    · rcases List.mem_append.mp hk with hk | hk
      · exact absurd hticket (hnew k hk)
      · exact List.mem_singleton.mp hk
    · intro k newest clock answer hticket hmem
      have hnewer : s.generation < k.ticket := Nat.lt_of_lt_of_eq (Nat.lt_succ_self _) hticket.symm
      rcases List.mem_append.mp hmem with hmem | hmem
      · exact h.not_ended hnewer newest clock answer hmem
      · cases List.mem_singleton.mp hmem
  have hgo := hentered.goOn (List.mem_append_right _ (List.mem_singleton_self _)) .ticket
    s.enter.1.fetch.yields
  rw [List.append_assoc] at hgo
  exact hgo

end Turns

/-- A load that is waited for, while nobody else is at work, ends as its verdict says, and leaves its
answer as the snapshot if it has one. -/
theorem load_ended {timeout : Nat} {moments : List Moment} {s : Store} (h : Timely timeout moments s)
    (hpatient : Patient s) (hwrites : s.enter.1.fetch.writes = none) :
    ∃ us clock answer, (s.turns (.begin :: us)).2 = s.load.2 ∧ s.load.1 = some answer ∧
      .ended s.enter.1 (s.generation + 1) clock answer ∈ (s.turns (.begin :: us)).1 ∧
      (clock, answer.map Snapshot.menu) = s.enter.1.verdict timeout ∧
      s.load.2.snapshot = answer.toOption.getD s.snapshot ∧
      s.load.2.generation = s.generation + 1 := by
  have hbegin := turn_begin h.ordered
  have htimely := h.turn hpatient .begin
  have hundisturbed := undisturbed_begin h hwrites
  have hstill := hpatient.turn h.ordered .begin
  have hturns (us : List Turn) : s.turns (.begin :: us) =
      ((s.turn .begin).1 ++ (s.begin.2.turns us).1, (s.begin.2.turns us).2) := by
    rw [← hbegin]
    rfl
  rw [hbegin] at htimely hundisturbed hstill
  have hgeneration : s.begin.2.generation = s.generation + 1 :=
    (keep_plain (fun _ => hwrites) s.enter.1.fetch.yields).1
  have hpassive : Passive s.begin.2 := by
    intro k hk hnewest
    rw [hundisturbed.sole k hk (hnewest.symm.trans hgeneration)]
    exact hwrites
  have hlast := (hpassive.await (s.generation + 1)).trans hgeneration
  obtain ⟨answer, hanswer⟩ := load_isSome s
  obtain ⟨t, ⟨us, -, rfl⟩, hmem, vs, -, hvs⟩ := await_finished htimely.ordered hanswer
  -- The load has ended on the way to the last store; there it is still the newest one.
  obtain ⟨k, newest, clock, hticket, hended⟩ := (htimely.turns hstill us).replies _ hmem
  have hall := htimely.turns hstill (us ++ vs)
  have hcourse := (hundisturbed.turns (us ++ vs)).course
  rw [turns_append] at hall hcourse
  simp only [hvs] at hall hcourse
  have hwhole := List.mem_append_left ((s.begin.2.turns us).2.turns vs).1 hended
  rw [List.append_assoc] at hwhole
  cases hcourse hlast with
  | running unended => exact absurd hwhole (unended k newest clock answer hticket)
  | @finished clock' answer' ended left =>
    have honce := (List.nodup_append'.mp hall.once).2.1
    have hsame := eq_of_nodup_filterMap honce hwhole ended rfl (congrArg some hticket.symm)
    cases hsame
    obtain ⟨-, race, hverdict⟩ := hall.ends _ _ _ _ ended
    rw [Load.EndsAs, if_pos rfl] at hverdict
    refine ⟨us ++ vs, clock, answer, ?_, hanswer, ?_, hverdict, left, hlast⟩
    · rw [hturns, turns_append]
      exact hvs
    · rw [hturns, turns_append]
      rw [List.append_assoc] at ended
      refine (List.mem_append.mp ended).resolve_left ?_
      exact h.not_ended (Nat.lt_succ_self _) _ _ _

theorem load_alone {timeout : Nat} {moments : List Moment} {s : Store} (h : Timely timeout moments s)
    (hpatient : Patient s) (hwrites : s.enter.1.fetch.writes = none) :
    ∃ answer, s.load.1 = some answer ∧
      answer.map Snapshot.menu = (s.enter.1.verdict timeout).2 ∧
      s.load.2.snapshot = answer.toOption.getD s.snapshot ∧
      s.load.2.generation = s.generation + 1 := by
  obtain ⟨us, clock, answer, -, hanswer, -, hverdict, hrest⟩ := load_ended h hpatient hwrites
  exact ⟨answer, hanswer, congrArg Prod.snd hverdict, hrest⟩

end ConsoleNav.Store
