import ConsoleNav.Proofs.Store.SessionTurn

/-!
What a load answers, and when. The verdict on a load is known when it is begun, from what its source
is going to do: it is what the load ends with unless a newer ticket is drawn before.
-/
namespace ConsoleNav.Store

/-- When a load ends and with what, if no newer ticket is drawn before. -/
def Load.verdict (timeout : Nat) (l : Load) : Nat × Except LoadFault (List Menu.Entry) :=
  if timeout < l.fetch.delay ∨ (l.fetch.yields ∧ timeout = 0) then
    (l.begun + timeout, .error (.fetch (.timedOut timeout)))
  else
    match l.fetch.outcome, l.fetch.writes with
    | some (.error fault), _ => (l.begun + l.fetch.delay, .error (.fetch fault))
    | some (.ok menu), writes =>
      (l.begun + l.fetch.delay,
        if Menu.violations menu ≠ [] then .error (.malformed (Menu.violations menu))
        else if writes.isSome then .error .superseded
        else .ok menu)
    | none, some _ =>
      if l.fetch.delay = timeout then (l.begun + timeout, .error (.fetch (.timedOut timeout)))
      else (l.begun + l.fetch.delay, .error .superseded)
    | none, none => (l.begun + timeout, .error (.fetch (.timedOut timeout)))

/-- What a load ends with that finds a newer ticket: its verdict, if that is reached now and looked at first.
A menu is not committed any more. -/
def Load.overtaken (timeout clock : Nat) (race : Race) (l : Load) : LoadFault :=
  match (l.verdict timeout).2 with
  | .error fault => if race = .source ∧ clock = (l.verdict timeout).1 then fault else .superseded
  | .ok _ => .superseded

/-- The right end of a load that went on to it when `newest` was the newest ticket, looking at one thing
first. -/
def Load.EndsAs (timeout : Nat) (race : Race) (l : Load) (newest clock : Nat) (answer : Answer) : Prop :=
  if newest = l.ticket then (clock, answer.map Snapshot.menu) = l.verdict timeout
  else l.ticket < newest ∧ clock ≤ (l.verdict timeout).1 ∧
    answer = .error (l.overtaken timeout clock race)

theorem Load.due_eq (l : Load) :
    l.due = if l.fetch.writes.isSome || l.fetch.outcome.isSome then some (l.begun + l.fetch.delay)
      else none := by
  unfold Load.due Fetch.due
  split <;> rfl

theorem Load.isDue_iff (l : Load) (clock : Nat) :
    l.isDue clock ↔
      (l.fetch.writes.isSome ∨ l.fetch.outcome.isSome) ∧ l.begun + l.fetch.delay ≤ clock := by
  unfold Load.isDue
  rw [l.due_eq]
  by_cases h : l.fetch.writes.isSome ∨ l.fetch.outcome.isSome
  · simp [h]
  · simp [h]

theorem Load.le_wakes_iff (l : Load) (clock timeout : Nat) :
    clock ≤ l.wakes timeout ↔
      clock ≤ l.begun + timeout ∧
        (l.fetch.writes.isSome ∨ l.fetch.outcome.isSome → clock ≤ l.begun + l.fetch.delay) := by
  unfold Load.wakes Load.deadline
  rw [l.due_eq]
  by_cases h : l.fetch.writes.isSome ∨ l.fetch.outcome.isSome
  · rw [if_pos (by simpa using h)]
    dsimp only
    rw [Nat.le_min]
    exact ⟨fun hle => ⟨hle.2, fun _ => hle.1⟩, fun hle => ⟨hle.2 h, hle.1⟩⟩
  · rw [if_neg (by simpa using h)]
    exact ⟨fun hle => ⟨hle, fun hdoes => absurd hdoes h⟩, fun hle => hle.1⟩

theorem Load.verdict_late {timeout : Nat} {l : Load}
    (h : timeout < l.fetch.delay ∨ (l.fetch.yields ∧ timeout = 0)) :
    l.verdict timeout = (l.begun + timeout, .error (.fetch (.timedOut timeout))) := by
  rw [Load.verdict, if_pos h]

theorem Load.verdict_le (timeout : Nat) (l : Load) :
    (l.verdict timeout).1 ≤ l.begun + timeout := by
  by_cases h : timeout < l.fetch.delay ∨ (l.fetch.yields ∧ timeout = 0)
  · exact Nat.le_of_eq (congrArg Prod.fst (Load.verdict_late h))
  · have hdelay : l.fetch.delay ≤ timeout := by omega
    rw [Load.verdict, if_neg h]
    split
    · simpa using hdelay
    · simpa using hdelay
    · split
      · exact Nat.le_refl _
      · simpa using hdelay
    · exact Nat.le_refl _

theorem Load.EndsAs.clock_le {timeout : Nat} {race : Race} {l : Load} {newest clock : Nat}
    {answer : Answer} (h : l.EndsAs timeout race newest clock answer) : clock ≤ l.begun + timeout := by
  unfold Load.EndsAs at h
  split at h
  · have hclock : clock = (l.verdict timeout).1 := congrArg Prod.fst h
    rw [hclock]
    exact l.verdict_le timeout
  · exact Nat.le_trans h.2.1 (l.verdict_le timeout)

theorem Load.wakes_le_verdict (timeout : Nat) (l : Load) :
    l.wakes timeout ≤ (l.verdict timeout).1 := by
  obtain ⟨hlimit, hdelay⟩ := (l.le_wakes_iff _ timeout).mp (Nat.le_refl _)
  rw [Load.verdict]
  split
  · exact hlimit
  · cases houtcome : l.fetch.outcome with
    | some outcome => cases outcome <;> exact hdelay (by simp [houtcome])
    | none =>
        cases hwrites : l.fetch.writes with
        | none => exact hlimit
        | some menu =>
            dsimp only
            split
            · exact hlimit
            · exact hdelay (by simp [hwrites])

theorem Load.verdict_answered {timeout : Nat} {l : Load} {outcome : Except FetchFault (List Menu.Entry)}
    (given : l.fetch.outcome = some outcome) (hdelay : l.fetch.delay ≤ timeout)
    (hyields : l.fetch.yields → timeout ≠ 0) :
    l.verdict timeout =
      (l.begun + l.fetch.delay, do
        let menu ← judge outcome
        if l.fetch.writes.isSome then .error .superseded else .ok menu) := by
  have hearly : ¬ (timeout < l.fetch.delay ∨ (l.fetch.yields ∧ timeout = 0)) := by
    rintro (hlate | ⟨hyield, hzero⟩)
    · omega
    · exact hyields hyield hzero
  rw [Load.verdict, if_neg hearly, given]
  cases outcome with
  | error fault => rfl
  | ok menu =>
      by_cases hvalid : Menu.violations menu = []
      · simp [judge, Menu.isValid, hvalid, bind, Except.bind]
      · simp [judge, Menu.isValid, hvalid, bind, Except.bind]

theorem Load.overtaken_ticket (timeout clock : Nat) (l : Load) :
    l.overtaken timeout clock .ticket = .superseded := by
  unfold Load.overtaken
  split <;> simp

theorem Load.overtaken_early {timeout clock : Nat} {l : Load} (h : clock < (l.verdict timeout).1)
    (race : Race) : l.overtaken timeout clock race = .superseded := by
  unfold Load.overtaken
  split
  · exact if_neg fun hnow => Nat.ne_of_lt h hnow.2
  · rfl

theorem Load.overtaken_fault {timeout clock : Nat} {l : Load} {fault : LoadFault}
    (h : l.verdict timeout = (clock, .error fault)) : l.overtaken timeout clock .source = fault := by
  simp [Load.overtaken, h]

/-- With the fault of its verdict a load may end whatever the newest ticket is. -/
theorem Load.endsAs_fault {timeout : Nat} {race : Race} {l : Load} {newest clock : Nat}
    {fault : LoadFault} (hdrawn : l.ticket ≤ newest) (ready : race = .source ∨ newest = l.ticket)
    (h : l.verdict timeout = (clock, .error fault)) :
    l.EndsAs timeout race newest clock (.error fault) := by
  unfold Load.EndsAs
  split
  · rw [h]
    rfl
  · next older =>
    rw [ready.resolve_right older, Load.overtaken_fault h, h]
    exact ⟨by omega, Nat.le_refl _, rfl⟩

theorem conclude_endsAs {timeout : Nat} {race : Race} {l : Load} {s : Store}
    {outcome : Except FetchFault (List Menu.Entry)} (given : l.fetch.outcome = some outcome)
    (hdrawn : l.ticket ≤ s.generation) (ready : race.ready l s) (hdelay : l.fetch.delay ≤ timeout)
    (hyields : l.fetch.yields → timeout ≠ 0) :
    l.EndsAs timeout race s.generation (l.begun + l.fetch.delay)
      ((s.letWrite l).conclude l outcome).1 := by
  have hverdict := Load.verdict_answered given hdelay hyields
  cases hjudge : judge outcome with
  | error fault =>
      rw [hjudge] at hverdict
      have hend : ((s.letWrite l).conclude l outcome).1 = .error fault := by simp [conclude, hjudge]
      rw [hend]
      exact Load.endsAs_fault hdrawn ready hverdict
  | ok menu =>
      have hend : ((s.letWrite l).conclude l outcome).1 = ((s.letWrite l).tryCommit l menu).1 := by
        simp [conclude, hjudge]
      rw [hend]
      rw [hjudge] at hverdict
      cases hwrites : l.fetch.writes with
      | some own =>
          have holder : (s.letWrite l).generation ≠ l.ticket := by
            simpa [letWrite, hwrites] using Nat.ne_of_gt (Nat.lt_succ_of_le hdrawn)
          rw [tryCommit, if_neg holder]
          exact Load.endsAs_fault hdrawn ready (by rw [hverdict, hwrites]; rfl)
      | none =>
          rw [hwrites] at hverdict
          by_cases newest : s.generation = l.ticket
          · rw [Load.EndsAs, if_pos newest, hverdict]
            simp [letWrite, hwrites, tryCommit, newest, commit, Except.map, bind, Except.bind]
          · rw [Load.EndsAs, if_neg newest, hverdict, Load.overtaken, hverdict]
            refine ⟨by omega, Nat.le_refl _, ?_⟩
            simp [letWrite, hwrites, tryCommit, newest, bind, Except.bind]

/-- Whatever a load looks at first, it comes to the right end. -/
theorem poll_endsAs {timeout : Nat} {race : Race} {passOver : Bool} {l : Load} {s t : Store}
    {answer : Answer} (hlimit : s.timeout = timeout) (hdrawn : l.ticket ≤ s.generation)
    (hwakes : s.clock ≤ l.wakes timeout)
    (hpass : passOver → s.generation = l.ticket ∧ l.fetch.yields ∧ s.clock = l.begun)
    (hstay : passOver = false → l.fetch.yields → timeout ≠ 0)
    (hpoll : s.poll race passOver l = (some answer, t)) :
    l.EndsAs timeout race s.generation s.clock answer := by
  subst hlimit
  obtain ⟨hdeadline, hdelay⟩ := (l.le_wakes_iff _ _).mp hwakes
  have hpolled := polled race passOver l s
  rw [hpoll] at hpolled
  cases hpolled with
  | superseded older unready =>
      have hsuperseded : l.overtaken s.timeout s.clock race = .superseded := by
        cases race with
        | ticket => exact l.overtaken_ticket _ _
        | source =>
            obtain ⟨idle, early⟩ := unready rfl
            have hidle : l.isDue s.clock = false := by
              simpa using fun due => older (hpass (idle due)).1
            have hbefore := (lt_wakes_iff l s.clock s.timeout).mpr ⟨hidle, early⟩
            exact Load.overtaken_early (Nat.lt_of_lt_of_le hbefore (l.wakes_le_verdict _)) _
      rw [Load.EndsAs, if_neg older, hsuperseded]
      exact ⟨by omega, Nat.le_trans hwakes (l.wakes_le_verdict _), rfl⟩
  | answered ready due here given =>
      obtain ⟨hdoes, hdue⟩ := (l.isDue_iff _).mp due
      have hclock : s.clock = l.begun + l.fetch.delay := Nat.le_antisymm (hdelay hdoes) hdue
      have hends := conclude_endsAs given hdrawn ready (by omega) (hstay here)
      rwa [← hclock] at hends
  | wrote ready due here hangs writes =>
      obtain ⟨hdoes, hdue⟩ := (l.isDue_iff _).mp due
      have hclock : s.clock = l.begun + l.fetch.delay := Nat.le_antisymm (hdelay hdoes) hdue
      have hearly : ¬ (s.timeout < l.fetch.delay ∨ (l.fetch.yields ∧ s.timeout = 0)) := by
        rintro (hlate | ⟨hyield, hzero⟩)
        · omega
        · exact hstay here hyield hzero
      apply Load.endsAs_fault hdrawn ready
      rw [Load.verdict, if_neg hearly, hangs, writes, hclock, Load.deadline]
      by_cases hlast : l.fetch.delay = s.timeout
      · simp [hlast]
      · have hbefore : ¬ l.begun + s.timeout ≤ l.begun + l.fetch.delay := by omega
        simp [hlast, hbefore]
  | timedOut ready idle late =>
      have hclock : s.clock = l.begun + s.timeout := Nat.le_antisymm hdeadline late
      apply Load.endsAs_fault hdrawn ready
      rw [hclock]
      by_cases hlate : s.timeout < l.fetch.delay ∨ (l.fetch.yields ∧ s.timeout = 0)
      · exact Load.verdict_late hlate
      · -- The source would have been due by now, so that it does nothing at all.
        have hidle : ¬ (l.fetch.writes.isSome ∨ l.fetch.outcome.isSome) := by
          intro hdoes
          have hpassed := idle ((l.isDue_iff _).mpr ⟨hdoes, by omega⟩)
          obtain ⟨-, hyields, hbegun⟩ := hpass hpassed
          exact hlate (.inr ⟨hyields, by omega⟩)
        have hwrites : l.fetch.writes = none := by simpa using fun h => hidle (.inl h)
        have houtcome : l.fetch.outcome = none := by simpa using fun h => hidle (.inr h)
        rw [Load.verdict, if_neg hlate, hwrites, houtcome]

/-- A load that finds a newer ticket ends. -/
theorem poll_overtaken {timeout : Nat} (race : Race) {l : Load} {s : Store} (hlimit : s.timeout = timeout)
    (hdrawn : l.ticket ≤ s.generation) (hwakes : s.clock ≤ l.wakes timeout)
    (hstay : l.fetch.yields → timeout ≠ 0) (holder : s.generation ≠ l.ticket) :
    (s.poll race false l).1 = some (.error (l.overtaken timeout s.clock race)) := by
  rcases hpoll : s.poll race false l with ⟨_ | answer, t⟩
  · exact absurd ((poll_eq_none_iff race).mp (congrArg Prod.fst hpoll)).1 holder
  · have hends : l.EndsAs timeout race s.generation s.clock answer :=
      poll_endsAs hlimit hdrawn hwakes (fun h => absurd h Bool.false_ne_true) (fun _ => hstay) hpoll
    rw [Load.EndsAs, if_neg holder] at hends
    exact congrArg some hends.2.2

end ConsoleNav.Store
