import ConsoleNav.Proofs.Store.Ledger

/-!
Who gets to commit: of all writes and loads of a shared store, only the one with the newest ticket. A
load that does not commit leaves the snapshot alone, and one that does replaces it as a whole.
-/
namespace ConsoleNav.Store.Shared

variable {marks : List Mark} {b : Shared} {e : Event}

theorem step_cases (b : Shared) (e : Event) :
    (commits (b.step e).1 = [] ∧ (b.step e).2.store.snapshot = b.store.snapshot) ∨
    (∃ menu, e = .set menu ∧
      (b.step e).1 = [.drew (b.store.generation + 1), .offered (b.store.generation + 1) menu,
        .returned (b.store.generation + 1) (.ok (b.store.commit menu).1)] ∧
      (b.step e).2.store.snapshot = (b.store.commit menu).1) ∨
    (∃ l menu, e = .commit l.ticket ∧ (l, menu) ∈ b.fetched ∧
      (b.step e).1 = [.returned (b.step e).2.store.generation (.ok (b.store.commit menu).1)] ∧
      (b.step e).2.store.generation = l.ticket ∧
      (b.step e).2.store.snapshot = (b.store.commit menu).1) := by
  have hstepped := stepped b e
  generalize hresult : b.step e = result at hstepped ⊢
  cases hstepped with
  | set menu => exact .inr (.inl ⟨menu, rfl, rfl, rfl⟩)
  | begin | received | failed | aborted => exact .inl ⟨rfl, rfl⟩
  | idle undrawn pending generation snapshot => exact .inl ⟨rfl, snapshot⟩
  | @finished l menu here =>
      by_cases hnewest : b.store.generation = l.ticket
      · refine .inr (.inr ⟨l, menu, rfl, here, ?_⟩)
        simp [finish, tryCommit, hnewest, retire, Store.commit]
      · refine .inl ?_
        simp [finish, tryCommit, hnewest, retire, commits, Mark.commit?]

theorem drawn_step (b : Shared) (e : Event) :
    drawn (b.step e).1 = if e.draws then [b.store.generation + 1] else [] := by
  have hstepped := stepped b e
  generalize b.step e = result at hstepped
  cases hstepped with
  | set | begin | received | finished | aborted => rfl
  | failed undrawn | idle undrawn =>
      rw [undrawn]
      rfl

theorem Recorded.drawn_le (h : Recorded marks b) :
    ∀ other ∈ drawn marks, other ≤ b.store.generation := by
  intro other hother
  rw [h.counted, List.mem_range'_1] at hother
  omega

theorem Recorded.nodup_offers (h : Recorded marks b) : ((offers marks).map Prod.fst).Nodup :=
  (List.nodup_append'.mp h.once).2.1

theorem Recorded.newest_commit (h : Recorded marks b) :
    commits marks = [] ∧ b.store.snapshot = .initial ∨
      ∃ ticket, (ticket, b.store.snapshot) ∈ commits marks ∧
        (ticket, b.store.snapshot.menu) ∈ offers marks ∧
        ∀ other ∈ commits marks, other.1 ≤ ticket := by
  have hcurrent := h.current
  rcases List.eq_nil_or_concat (commits marks) with hnil | ⟨before, ⟨ticket, snapshot⟩, hlast⟩
  · rw [hnil] at hcurrent
    exact .inl ⟨hnil, hcurrent⟩
  · rw [List.concat_eq_append] at hlast
    have hmem : (ticket, snapshot) ∈ commits marks := by simp [hlast]
    have hsnapshot : b.store.snapshot = snapshot := by simpa [hlast] using hcurrent
    rw [hsnapshot]
    refine .inr ⟨ticket, hmem, h.committed _ hmem, ?_⟩
    have hincreasing := h.increasing
    rw [hlast, List.pairwise_append] at hincreasing
    intro other hother
    rw [hlast, List.mem_append, List.mem_singleton] at hother
    rcases hother with hother | rfl
    · exact Nat.le_of_lt (hincreasing.2.2 other hother _ (List.mem_singleton_self _))
    · exact Nat.le_refl _

theorem commits_step (b : Shared) (e : Event) :
    (commits (b.step e).1 = [] ∧ (b.step e).2.store.snapshot = b.store.snapshot) ∨
      commits (b.step e).1 =
        [((b.step e).2.store.generation, (b.step e).2.store.snapshot)] := by
  rcases step_cases b e with
    hnone | ⟨menu, rfl, -, -⟩ | ⟨l, menu, rfl, -, hmarks, -, hend⟩
  · exact .inl hnone
  · exact .inr rfl
  · rw [hmarks, hend]
    exact .inr rfl

/-- A write or load returns with a snapshot only while its ticket is the newest one. -/
theorem Recorded.returned_newest (h : Recorded marks b) {ticket : Nat} {snapshot : Snapshot}
    (hreturned : .returned ticket (.ok snapshot) ∈ (b.step e).1) :
    ticket ∈ drawn (marks ++ (b.step e).1) ∧
      ∀ other ∈ drawn (marks ++ (b.step e).1), other ≤ ticket := by
  have hmem : (ticket, snapshot) ∈ commits (b.step e).1 :=
    List.mem_filterMap.mpr ⟨_, hreturned, rfl⟩
  have hticket : ticket = (b.step e).2.store.generation := by
    rcases commits_step b e with ⟨hnone, -⟩ | hcommits
    · rw [hnone] at hmem
      exact absurd hmem List.not_mem_nil
    · rw [hcommits, List.mem_singleton] at hmem
      exact congrArg Prod.fst hmem
  constructor
  · have hcommitted : (ticket, snapshot) ∈ commits (marks ++ (b.step e).1) :=
      List.mem_filterMap.mpr ⟨_, List.mem_append_right _ hreturned, rfl⟩
    rw [← (h.step e).ledger.mem_iff]
    exact List.mem_append_right _ (closed_of_commit hcommitted)
  · rw [hticket]
    exact (h.step e).drawn_le

theorem Recorded.changed_newer (h : Recorded marks b)
    (hchanged : (b.step e).2.store.snapshot ≠ b.store.snapshot) :
    ∃ ticket, commits (b.step e).1 = [(ticket, (b.step e).2.store.snapshot)] ∧
      ∀ older ∈ commits marks, older.1 < ticket := by
  rcases commits_step b e with ⟨-, hsame⟩ | hcommits
  · exact absurd hsame hchanged
  · refine ⟨_, hcommits, fun older holder => ?_⟩
    have hincreasing := (h.step e).increasing
    rw [commits, List.filterMap_append, List.pairwise_append] at hincreasing
    exact hincreasing.2.2 older holder _ (hcommits ▸ List.mem_singleton_self _)

/-- Newest write wins. -/
theorem newest_write_wins (source : Source) (timeout : Nat) :
    (∀ steps, ∀ x ∈ Session.run ⟨.fresh source timeout, [], []⟩ steps,
      Leads (fresh source timeout) ⟨x.2.store, []⟩) ∧
    ∀ events,
      let marks := ((fresh source timeout).run events).1
      let b := ((fresh source timeout).run events).2
      (commits marks).Pairwise (·.1 < ·.1) ∧
      ((offers marks).map Prod.fst).Nodup ∧
      (commits marks = [] ∧ b.store.snapshot = .initial ∨
        ∃ ticket, (ticket, b.store.snapshot) ∈ commits marks ∧
          (ticket, b.store.snapshot.menu) ∈ offers marks ∧
          ∀ other ∈ commits marks, other.1 ≤ ticket) ∧
      ∀ e,
        (e.draws → ∃ ticket, drawn (b.step e).1 = [ticket] ∧
          ∀ other ∈ drawn marks, other < ticket) ∧
        (∀ ticket snapshot, .returned ticket (.ok snapshot) ∈ (b.step e).1 →
          ticket ∈ drawn (marks ++ (b.step e).1) ∧
            ∀ other ∈ drawn (marks ++ (b.step e).1), other ≤ ticket) ∧
        ((b.step e).2.store.snapshot ≠ b.store.snapshot →
          ∃ ticket, commits (b.step e).1 = [(ticket, (b.step e).2.store.snapshot)] ∧
            ∀ older ∈ commits marks, older.1 < ticket) := by
  refine ⟨session_leads source timeout, fun events => ?_⟩
  intro marks b
  have h : Recorded marks b := recorded_run source timeout events
  refine ⟨h.increasing, h.nodup_offers, h.newest_commit, fun e => ⟨?_, ?_, h.changed_newer⟩⟩
  · intro hdraws
    refine ⟨b.store.generation + 1, by rw [drawn_step, if_pos hdraws], ?_⟩
    exact fun other hother => Nat.lt_succ_of_le (h.drawn_le other hother)
  · exact fun ticket snapshot hreturned => h.returned_newest hreturned

/-! ### All or nothing -/

theorem judge_ok {outcome : Except FetchFault (List Menu.Entry)} {menu : List Menu.Entry}
    (h : judge outcome = .ok menu) : outcome = .ok menu ∧ Menu.isValid menu := by
  cases outcome with
  | error fault => cases h
  | ok other =>
      by_cases hvalid : Menu.isValid other
      · rw [judge, if_pos hvalid] at h
        cases h
        exact ⟨rfl, hvalid⟩
      · rw [judge, if_neg hvalid] at h
        cases h

theorem fetched_step (b : Shared) (e : Event) :
    ∀ x ∈ (b.step e).2.fetched,
      x ∈ b.fetched ∨
        x.1 ∈ b.store.pending ∧ e = .answer x.1.ticket (.ok x.2) ∧ Menu.isValid x.2 := by
  have hstepped := stepped b e
  generalize b.step e = result at hstepped
  cases hstepped with
  | set | begin | failed | aborted | idle => exact fun x hx => .inl hx
  | finished here => exact fun x hx => .inl (List.mem_of_mem_filter hx)
  | received here judged =>
      obtain ⟨rfl, hvalid⟩ := judge_ok judged
      intro x hx
      rcases List.mem_append.mp hx with hx | hx
      · exact .inl hx
      · rw [List.mem_singleton.mp hx]
        exact .inr ⟨here, rfl, hvalid⟩

/-- A load that returns was under way, and with a snapshot it returns only if it has fetched the menu. -/
theorem returned_step {b : Shared} {e : Event} (undrawn : e.draws = false) {ticket : Nat}
    {answer : Answer} (h : .returned ticket answer ∈ (b.step e).1) :
    ticket ∈ b.tickets ∧ ∀ snapshot, answer = .ok snapshot →
      ∃ l, (l, snapshot.menu) ∈ b.fetched ∧ l.ticket = ticket := by
  have hstepped := stepped b e
  generalize b.step e = result at hstepped h
  cases hstepped with
  | set | begin => cases undrawn
  | failed _ here =>
      cases List.mem_singleton.mp h
      exact ⟨List.mem_append_left _ (List.mem_map_of_mem here), nofun⟩
  | @finished l menu here =>
      obtain ⟨rfl, rfl⟩ : ticket = l.ticket ∧ answer = (b.store.tryCommit l menu).1 := by
        simpa [finish] using h
      refine ⟨List.mem_append_right _ (List.mem_map_of_mem (f := (·.1.ticket)) here), ?_⟩
      intro snapshot hsnapshot
      unfold tryCommit at hsnapshot
      split at hsnapshot
      · cases hsnapshot
        exact ⟨l, here, rfl⟩
      · cases hsnapshot
  | aborted | received => cases List.mem_singleton.mp h
  | idle => cases h

/-- Whoever has ended has returned. -/
theorem finished_step (b : Shared) (e : Event) :
    ∀ x ∈ (b.step e).2.store.finished,
      x ∈ b.store.finished ∨ .returned x.1 x.2 ∈ (b.step e).1 := by
  have hretired {s : Store} (l : Load) (answer : Answer) (h : s.finished = b.store.finished) :
      ∀ x ∈ (s.retire l answer).finished,
        x ∈ b.store.finished ∨ Mark.returned x.1 x.2 ∈ [Mark.returned l.ticket answer] := by
    intro x hx
    rcases List.mem_append.mp hx with hx | hx
    · exact .inl (h ▸ hx)
    · rw [List.mem_singleton.mp hx]
      exact .inr (List.mem_singleton_self _)
  cases e with
  | set | begin | pass => exact fun x hx => .inl hx
  | answer ticket outcome =>
      simp only [step]
      split
      · exact fun x hx => .inl hx
      · split
        · exact fun x hx => .inl hx
        · exact hretired _ _ rfl
  | supersede ticket | timeOut ticket =>
      simp only [step]
      split
      · exact fun x hx => .inl hx
      · split
        · exact hretired _ _ rfl
        · exact fun x hx => .inl hx
  | commit ticket =>
      simp only [step]
      split
      · exact fun x hx => .inl hx
      · rename_i l menu _
        exact hretired _ _ (finished_tryCommit l menu b.store)
  | abort ticket => exact fun x hx => .inl (List.mem_of_mem_filter hx)
  | take ticket =>
      simp only [step, Store.take?]
      split
      · exact fun x hx => .inl (List.mem_of_mem_filter hx)
      · exact fun x hx => .inl hx

/-- A load with a menu has got it, in the right shape, from its source. -/
theorem fetched_run (b : Shared) (events : List Event) :
    ∀ x ∈ (b.run events).2.fetched,
      x ∈ b.fetched ∨ .answer x.1.ticket (.ok x.2) ∈ events ∧ Menu.isValid x.2 := by
  induction events generalizing b with
  | nil => exact fun x hx => .inl hx
  | cons e events ih =>
      intro x hx
      rcases ih _ x hx with hstep | ⟨hmem, hvalid⟩
      · rcases fetched_step b e x hstep with hold | ⟨-, rfl, hvalid⟩
        · exact .inl hold
        · exact .inr ⟨List.mem_cons_self, hvalid⟩
      · exact .inr ⟨List.mem_cons_of_mem _ hmem, hvalid⟩

/-- A load that goes on commits what it has fetched, or changes nothing but what its source writes. -/
theorem poll_allOrNothing (race : Race) (passOver : Bool) (l : Load) (s : Store)
    (hdrawn : race = .source → l.ticket ≤ s.generation) :
    (∃ menu, l.fetch.outcome = some (.ok menu) ∧ s.generation = l.ticket ∧
      s.poll race passOver l = (some (.ok (s.commit menu).1), (s.commit menu).2)) ∨
    ((∀ snapshot, (s.poll race passOver l).1 ≠ some (.ok snapshot)) ∧
      ((s.poll race passOver l).2 = s ∨
        ∃ menu, l.fetch.writes = some menu ∧ (s.poll race passOver l).2 = (s.set menu).2)) := by
  have hpolled := polled race passOver l s
  generalize s.poll race passOver l = result at hpolled
  cases hpolled with
  | superseded | timedOut | waits => exact .inr ⟨by simp, .inl rfl⟩
  | wrote ready due here hangs writes => exact .inr ⟨by simp, .inr ⟨_, writes, rfl⟩⟩
  | @answered ready due here outcome given =>
      have hle : l.ticket ≤ s.generation := ready.elim hdrawn fun newest => Nat.le_of_eq newest.symm
      have hfault (fault : LoadFault) (hjudge : judge outcome = .error fault) :
          (s.letWrite l).conclude l outcome = (.error fault, s.letWrite l) := by
        simp [conclude, hjudge]
      cases hwrites : l.fetch.writes with
      | none =>
          have hsame : s.letWrite l = s := by simp [letWrite, hwrites]
          cases hjudge : judge outcome with
          | error fault =>
              rw [hfault fault hjudge, hsame]
              exact .inr ⟨by simp, .inl rfl⟩
          | ok menu =>
              rw [hsame]
              by_cases newest : s.generation = l.ticket
              · have hend : s.conclude l outcome = (.ok (s.commit menu).1, (s.commit menu).2) := by
                  simp [conclude, hjudge, tryCommit, newest]
                rw [hend]
                exact .inl ⟨menu, by rw [given, (judge_ok hjudge).1], newest, rfl⟩
              · have hend : s.conclude l outcome = (.error .superseded, s) := by
                  simp [conclude, hjudge, tryCommit, newest]
                rw [hend]
                exact .inr ⟨by simp, .inl rfl⟩
      | some own =>
          have hown : s.letWrite l = (s.set own).2 := by simp [letWrite, hwrites]
          cases hjudge : judge outcome with
          | error fault =>
              rw [hfault fault hjudge, hown]
              exact .inr ⟨by simp, .inr ⟨own, rfl, rfl⟩⟩
          | ok menu =>
              have holder : s.generation + 1 ≠ l.ticket := Nat.ne_of_gt (Nat.lt_succ_of_le hle)
              have hend : (s.set own).2.conclude l outcome = (.error .superseded, (s.set own).2) := by
                simp [conclude, hjudge, tryCommit, holder]
              rw [hown, hend]
              exact .inr ⟨by simp, .inr ⟨own, rfl, rfl⟩⟩

theorem Recorded.commit_whole {source : Source} {timeout : Nat} {events : List Event}
    (h : Recorded marks b) (hrun : b = ((fresh source timeout).run events).2) (e : Event) :
    commits (b.step e).1 = [] ∧ (b.step e).2.store.snapshot = b.store.snapshot ∨
      ∃ ticket menu,
        (e = .set menu ∧ ticket = b.store.generation + 1 ∨
          e = .commit ticket ∧ .answer ticket (.ok menu) ∈ events ∧ Menu.isValid menu) ∧
        (ticket, menu) ∈ offers (marks ++ (b.step e).1) ∧
        commits (b.step e).1 = [(ticket, (b.step e).2.store.snapshot)] ∧
        (b.step e).2.store.snapshot =
          ⟨menu, b.store.snapshot.serial + 1, some (Instant.ofMillis b.store.clock)⟩ := by
  rcases step_cases b e with
    hnone | ⟨menu, rfl, hmarks, -⟩ | ⟨l, menu, rfl, hl, hmarks, hnewest, hend⟩
  · exact .inl hnone
  · refine .inr ⟨_, menu, .inl ⟨rfl, rfl⟩, ?_, rfl, rfl⟩
    exact List.mem_filterMap.mpr ⟨.offered _ menu, by simp [hmarks], rfl⟩
  · have hanswer := (fetched_run _ events _ (hrun ▸ hl)).resolve_left List.not_mem_nil
    refine .inr ⟨l.ticket, menu, .inr ⟨rfl, hanswer⟩, ?_, ?_, hend⟩
    · rw [offers, List.filterMap_append]
      exact List.mem_append_left _ (h.offered _ hl)
    · rw [hmarks, hnewest]
      exact congrArg (fun snapshot => [(l.ticket, snapshot)]) hend.symm

/-- No event in the life of a load changes the snapshot, unless the load returns with one. -/
theorem unchanged_of_uncommitted (source : Source) (timeout : Nat) (events later : List Event)
    (e : Event) (ticket : Nat)
    (hnone : ∀ snapshot,
      .returned ticket (.ok snapshot) ∉ ((fresh source timeout).run (events ++ e :: later)).1)
    (hisOf : e.isOf ((fresh source timeout).run events).2.store.generation ticket) :
    (((fresh source timeout).run events).2.step e).2.store.snapshot =
      ((fresh source timeout).run events).2.store.snapshot := by
  rcases step_cases ((fresh source timeout).run events).2 e with
    ⟨-, hsame⟩ | ⟨menu, rfl, -, -⟩ | ⟨l, menu, rfl, -, hmarks, hnewest, -⟩
  · exact hsame
  · exact absurd hisOf id
  · obtain rfl : l.ticket = ticket := hisOf
    have hmem : .returned l.ticket
          (.ok (((fresh source timeout).run events).2.store.commit menu).1) ∈
        (((fresh source timeout).run events).2.step (.commit l.ticket)).1 := by
      rw [hmarks, hnewest]
      exact List.mem_singleton_self _
    have hreturned := List.mem_append_right ((fresh source timeout).run events).1
      (List.mem_append_left ((((fresh source timeout).run events).2.step
        (.commit l.ticket)).2.run later).1 hmem)
    rw [run_append] at hnone
    exact absurd hreturned (hnone _)

/-- A ticket is closed only once: a load that fails or is given up has not returned with a snapshot. -/
theorem not_returned_of_failed {source : Source} {timeout : Nat} {events : List Event} {ticket : Nat}
    (hfailed : .aborted ticket ∈ ((fresh source timeout).run events).1 ∨
      ∃ fault, .returned ticket (.error fault) ∈ ((fresh source timeout).run events).1)
    (snapshot : Snapshot) :
    .returned ticket (.ok snapshot) ∉ ((fresh source timeout).run events).1 := by
  intro hcommit
  have hclosed := (List.nodup_append'.mp (recorded_run source timeout events).nodup).2.1
  rcases hfailed with haborted | ⟨fault, hfault⟩
  · cases eq_of_nodup_filterMap hclosed haborted hcommit rfl rfl
  · cases eq_of_nodup_filterMap hclosed hfault hcommit rfl rfl

/-- A load is all or nothing. -/
theorem load_allOrNothing (source : Source) (timeout : Nat) :
    (∀ steps, ∀ x ∈ Session.run ⟨.fresh source timeout, [], []⟩ steps,
      Leads (fresh source timeout) ⟨x.2.store, []⟩) ∧
    (∀ race passOver l (s : Store), (race = .source → l.ticket ≤ s.generation) →
      (∃ menu, l.fetch.outcome = some (.ok menu) ∧ s.generation = l.ticket ∧
        s.poll race passOver l = (some (.ok (s.commit menu).1), (s.commit menu).2)) ∨
      ((∀ snapshot, (s.poll race passOver l).1 ≠ some (.ok snapshot)) ∧
        ((s.poll race passOver l).2 = s ∨
          ∃ menu, l.fetch.writes = some menu ∧ (s.poll race passOver l).2 = (s.set menu).2))) ∧
    ∀ events e,
      let marks := ((fresh source timeout).run events).1
      let b := ((fresh source timeout).run events).2
      let c := (b.step e).2
      (commits (b.step e).1 = [] ∧ c.store.snapshot = b.store.snapshot ∨
        ∃ ticket menu,
          (e = .set menu ∧ ticket = b.store.generation + 1 ∨
            e = .commit ticket ∧ .answer ticket (.ok menu) ∈ events ∧ Menu.isValid menu) ∧
          (ticket, menu) ∈ offers (marks ++ (b.step e).1) ∧
          commits (b.step e).1 = [(ticket, c.store.snapshot)] ∧
          c.store.snapshot =
            ⟨menu, b.store.snapshot.serial + 1, some (Instant.ofMillis b.store.clock)⟩) ∧
      ∀ later ticket,
        (.aborted ticket ∈ ((fresh source timeout).run (events ++ e :: later)).1 ∨
          ∃ fault, .returned ticket (.error fault) ∈
            ((fresh source timeout).run (events ++ e :: later)).1) →
        e.isOf b.store.generation ticket → c.store.snapshot = b.store.snapshot := by
  refine ⟨session_leads source timeout, poll_allOrNothing, fun events e => ?_⟩
  intro marks b c
  have h : Recorded marks b := recorded_run source timeout events
  constructor
  · exact h.commit_whole rfl e
  · intro later ticket hfailed hisOf
    exact unchanged_of_uncommitted source timeout events later e ticket
      (not_returned_of_failed hfailed) hisOf

end ConsoleNav.Store.Shared
