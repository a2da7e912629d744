import ConsoleNav.Proofs.Store.Interleaving

/-!
The ledger of a shared store: each ticket that has been drawn belongs to one load that is under way or
to one write or load that is over. With it goes what the commits of a run have left in the store.
-/
namespace ConsoleNav.Store

def Mark.drew? : Mark → Option Nat
  | .drew ticket => some ticket
  | _ => none

def Mark.offer? : Mark → Option (Nat × List Menu.Entry)
  | .offered ticket menu => some (ticket, menu)
  | _ => none

def Mark.closed? : Mark → Option Nat
  | .returned ticket _ => some ticket
  | .aborted ticket => some ticket
  | _ => none

def Mark.commit? : Mark → Option (Nat × Snapshot)
  | .returned ticket (.ok snapshot) => some (ticket, snapshot)
  | _ => none

namespace Shared

def drawn (marks : List Mark) : List Nat :=
  marks.filterMap Mark.drew?

/-- The menus of the writes and loads of a run, under their tickets. -/
def offers (marks : List Mark) : List (Nat × List Menu.Entry) :=
  marks.filterMap Mark.offer?

/-- The tickets of the writes and loads that are over. -/
def closed (marks : List Mark) : List Nat :=
  marks.filterMap Mark.closed?

/-- The commits of a run, in this order: the ticket of each, and the snapshot it has handed out. -/
def commits (marks : List Mark) : List (Nat × Snapshot) :=
  marks.filterMap Mark.commit?

def tickets (b : Shared) : List Nat :=
  b.store.pending.map Load.ticket ++ b.fetched.map (·.1.ticket)

/-- What the record of a run says about the store the run has led to. -/
structure Recorded (marks : List Mark) (b : Shared) : Prop where
  counted : drawn marks = List.range' 1 b.store.generation
  ledger : (b.tickets ++ closed marks).Perm (drawn marks)
  offered : ∀ x ∈ b.fetched, (x.1.ticket, x.2) ∈ offers marks
  once : (b.store.pending.map Load.ticket ++ (offers marks).map Prod.fst).Nodup
  limited : ∀ ticket ∈ (offers marks).map Prod.fst, ticket ≤ b.store.generation
  increasing : (commits marks).Pairwise (·.1 < ·.1)
  committed : ∀ c ∈ commits marks, (c.1, c.2.menu) ∈ offers marks
  current : b.store.snapshot = ((commits marks).getLast?.map Prod.snd).getD .initial

variable {marks : List Mark} {b c : Shared} {l : Load} {menu : List Menu.Entry}

theorem closed_of_commit {ticket : Nat} {snapshot : Snapshot}
    (h : (ticket, snapshot) ∈ commits marks) : ticket ∈ closed marks := by
  obtain ⟨mark, hmark, hcommit⟩ := List.mem_filterMap.mp h
  refine List.mem_filterMap.mpr ⟨mark, hmark, ?_⟩
  unfold Mark.commit? at hcommit
  split at hcommit
  · cases hcommit
    rfl
  · cases hcommit

theorem Recorded.nodup (h : Recorded marks b) : (b.tickets ++ closed marks).Nodup := by
  rw [h.ledger.nodup_iff, h.counted]
  exact List.nodup_range'

theorem Recorded.le_generation (h : Recorded marks b) {ticket : Nat}
    (hticket : ticket ∈ b.tickets ++ closed marks) : ticket ≤ b.store.generation := by
  rw [h.ledger.mem_iff, h.counted, List.mem_range'_1] at hticket
  omega

/-- A load under way has a ticket under which nothing has been committed yet. -/
theorem Recorded.commits_ne (h : Recorded marks b) {ticket : Nat} (hticket : ticket ∈ b.tickets) :
    ∀ c ∈ commits marks, c.1 ≠ ticket := by
  rintro ⟨other, snapshot⟩ hc rfl
  exact (List.nodup_append'.mp h.nodup).2.2 hticket (closed_of_commit hc)

theorem Recorded.commits_le (h : Recorded marks b) :
    ∀ c ∈ commits marks, c.1 ≤ b.store.generation := by
  rintro ⟨ticket, snapshot⟩ hc
  exact h.le_generation (List.mem_append_right _ (closed_of_commit hc))

theorem recorded_fresh (source : Source) (timeout : Nat) : Recorded [] (fresh source timeout) where
  counted := rfl
  ledger := .refl _
  offered _ hx := absurd hx List.not_mem_nil
  once := List.nodup_nil
  limited _ hticket := absurd hticket List.not_mem_nil
  increasing := List.Pairwise.nil
  committed _ hc := absurd hc List.not_mem_nil
  current := rfl

/-! ### One event -/

theorem Recorded.stay (h : Recorded marks b) (hpending : c.store.pending = b.store.pending)
    (hfetched : c.fetched = b.fetched) (hgeneration : c.store.generation = b.store.generation)
    (hsnapshot : c.store.snapshot = b.store.snapshot) : Recorded marks c := by
  obtain ⟨counted, ledger, offered, once, limited, increasing, committed, current⟩ := h
  rw [tickets, ← hpending, ← hfetched] at ledger
  rw [← hgeneration] at counted limited
  exact ⟨counted, ledger, hfetched ▸ offered, hpending ▸ once, limited, increasing, committed,
    hsnapshot.trans current⟩

/-- A load is over without a commit. -/
theorem Recorded.close {mark : Mark} {ticket : Nat} (h : Recorded marks b)
    (hmark : mark = .aborted ticket ∨ ∃ fault, mark = .returned ticket (.error fault))
    (hledger : (c.tickets ++ (closed marks ++ [ticket])).Perm (drawn marks))
    (hpending : c.store.pending.Sublist b.store.pending) (hfetched : c.fetched ⊆ b.fetched)
    (hgeneration : c.store.generation = b.store.generation)
    (hsnapshot : c.store.snapshot = b.store.snapshot) : Recorded (marks ++ [mark]) c := by
  obtain ⟨hdrawn, hoffers, hclosed, hcommits⟩ :
      drawn (marks ++ [mark]) = drawn marks ∧ offers (marks ++ [mark]) = offers marks ∧
        closed (marks ++ [mark]) = closed marks ++ [ticket] ∧
          commits (marks ++ [mark]) = commits marks := by
    rcases hmark with rfl | ⟨fault, rfl⟩ <;>
      simp [drawn, offers, closed, commits, Mark.drew?, Mark.offer?, Mark.closed?, Mark.commit?]
  constructor
  case counted => rw [hdrawn, hgeneration, h.counted]
  case ledger => rwa [hdrawn, hclosed]
  case offered =>
    rw [hoffers]
    exact fun x hx => h.offered x (hfetched hx)
  case once =>
    rw [hoffers]
    exact h.once.sublist ((hpending.map _).append_right _)
  case limited =>
    rw [hoffers, hgeneration]
    exact h.limited
  case increasing =>
    rw [hcommits]
    exact h.increasing
  case committed =>
    rw [hcommits, hoffers]
    exact h.committed
  case current => rw [hsnapshot, hcommits, h.current]

theorem Recorded.ledger_of_leave {ticket : Nat} (h : Recorded marks b)
    (hmem : ticket ∈ b.store.pending.map Load.ticket) :
    ((b.store.pending.filter (·.ticket != ticket)).map Load.ticket ++ b.fetched.map (·.1.ticket) ++
        (closed marks ++ [ticket])).Perm (drawn marks) := by
  have hdistinct : (b.store.pending.map Load.ticket).Nodup := (List.nodup_append'.mp h.once).1
  have hperm := perm_move hdistinct hmem (b.fetched.map (·.1.ticket) ++ closed marks)
  have hledger := h.ledger
  rw [map_filter_ne]
  simp only [tickets, List.append_assoc] at hperm hledger ⊢
  exact hperm.trans hledger

theorem Recorded.fail (h : Recorded marks b) (hl : l ∈ b.store.pending) (fault : LoadFault) :
    Recorded (marks ++ (b.fail l fault).1) (b.fail l fault).2 :=
  h.close (.inr ⟨fault, rfl⟩) (h.ledger_of_leave (List.mem_map_of_mem hl)) List.filter_sublist
    (List.Subset.refl _) rfl rfl

theorem Recorded.receive (h : Recorded marks b) (hl : l ∈ b.store.pending)
    (menu : List Menu.Entry) :
    Recorded (marks ++ (b.receive l menu).1) (b.receive l menu).2 := by
  have hmem : l.ticket ∈ b.store.pending.map Load.ticket := List.mem_map_of_mem hl
  have hdistinct : (b.store.pending.map Load.ticket).Nodup := (List.nodup_append'.mp h.once).1
  obtain ⟨hdrawn, hoffers, hclosed, hcommits⟩ :
      drawn (marks ++ (b.receive l menu).1) = drawn marks ∧
        offers (marks ++ (b.receive l menu).1) = offers marks ++ [(l.ticket, menu)] ∧
          closed (marks ++ (b.receive l menu).1) = closed marks ∧
            commits (marks ++ (b.receive l menu).1) = commits marks := by
    simp [Shared.receive, drawn, offers, closed, commits, List.filterMap_cons, Mark.drew?,
      Mark.offer?, Mark.closed?, Mark.commit?]
  constructor
  case counted => rw [hdrawn, h.counted, Shared.receive]
  case ledger =>
    have hperm := perm_move hdistinct hmem (b.fetched.map (·.1.ticket))
    rw [hdrawn, hclosed]
    simp only [Shared.receive, tickets, map_filter_ne, List.map_append, List.map_singleton]
    exact (hperm.append_right (closed marks)).trans h.ledger
  case offered =>
    intro x hx
    rw [hoffers, List.mem_append, List.mem_singleton]
    rcases List.mem_append.mp hx with hx | hx
    · exact .inl (h.offered x hx)
    · rw [List.mem_singleton.mp hx]
      exact .inr rfl
  case once =>
    have hperm := perm_move hdistinct hmem ((offers marks).map Prod.fst)
    rw [hoffers]
    simp only [Shared.receive, map_filter_ne, List.map_append, List.map_singleton]
    exact hperm.nodup_iff.mpr h.once
  case limited =>
    intro ticket hticket
    rw [hoffers, List.map_append, List.mem_append] at hticket
    rcases hticket with hticket | hticket
    · exact h.limited ticket hticket
    · rw [List.mem_singleton.mp hticket]
      exact h.le_generation (List.mem_append_left _ (List.mem_append_left _ hmem))
  case increasing =>
    rw [hcommits]
    exact h.increasing
  case committed =>
    intro c hc
    rw [hcommits] at hc
    rw [hoffers]
    exact List.mem_append_left _ (h.committed c hc)
  case current =>
    rw [hcommits]
    exact h.current

theorem Recorded.ledger_of_finish (h : Recorded marks b) (hl : (l, menu) ∈ b.fetched) :
    (b.store.pending.map Load.ticket ++
        (b.fetched.filter (·.1.ticket != l.ticket)).map (·.1.ticket) ++
          (closed marks ++ [l.ticket])).Perm (drawn marks) := by
  have hdistinct : (b.fetched.map (·.1.ticket)).Nodup :=
    (List.nodup_append'.mp (List.nodup_append'.mp h.nodup).1).2.1
  have hperm := perm_move hdistinct (List.mem_map_of_mem hl) (closed marks)
  have hledger := h.ledger
  rw [tickets, List.append_assoc] at hledger
  rw [map_filter_ne fun x : Load × List Menu.Entry => x.1.ticket, List.append_assoc]
  exact (hperm.append_left _).trans hledger

/-- The load with the newest ticket commits its menu. -/
theorem Recorded.finish_newest {snapshot : Snapshot} (h : Recorded marks b)
    (hl : (l, menu) ∈ b.fetched) (hnewest : b.store.generation = l.ticket)
    (hmenu : snapshot.menu = menu) (hpending : c.store.pending = b.store.pending)
    (hfetched : c.fetched = b.fetched.filter (·.1.ticket != l.ticket))
    (hgeneration : c.store.generation = b.store.generation)
    (hsnapshot : c.store.snapshot = snapshot) :
    Recorded (marks ++ [.returned l.ticket (.ok snapshot)]) c := by
  obtain ⟨hdrawn, hoffers, hclosed, hcommits⟩ :
      drawn (marks ++ [.returned l.ticket (.ok snapshot)]) = drawn marks ∧
        offers (marks ++ [.returned l.ticket (.ok snapshot)]) = offers marks ∧
          closed (marks ++ [.returned l.ticket (.ok snapshot)]) = closed marks ++ [l.ticket] ∧
            commits (marks ++ [.returned l.ticket (.ok snapshot)]) =
              commits marks ++ [(l.ticket, snapshot)] := by
    simp [drawn, offers, closed, commits, Mark.drew?, Mark.offer?, Mark.closed?, Mark.commit?]
  have hmem : l.ticket ∈ b.tickets :=
    List.mem_append_right _ (List.mem_map_of_mem (f := (·.1.ticket)) hl)
  constructor
  case counted => rw [hdrawn, hgeneration, h.counted]
  case ledger =>
    rw [hdrawn, hclosed, tickets, hpending, hfetched]
    exact h.ledger_of_finish hl
  case offered =>
    intro x hx
    rw [hfetched] at hx
    rw [hoffers]
    exact h.offered x (List.mem_of_mem_filter hx)
  case once =>
    rw [hpending, hoffers]
    exact h.once
  case limited =>
    rw [hoffers, hgeneration]
    exact h.limited
  case increasing =>
    rw [hcommits, List.pairwise_append]
    refine ⟨h.increasing, List.pairwise_singleton _ _, ?_⟩
    -- No ticket is above the newest one, and that one has not been used before.
    intro c hc d hd
    rw [List.mem_singleton.mp hd]
    exact Nat.lt_of_le_of_ne (hnewest ▸ h.commits_le c hc) (h.commits_ne hmem c hc)
  case committed =>
    intro c hc
    rw [hoffers]
    rw [hcommits, List.mem_append, List.mem_singleton] at hc
    rcases hc with hc | rfl
    · exact h.committed c hc
    · exact hmenu ▸ h.offered _ hl
  case current => simp [hcommits, hsnapshot]

theorem Recorded.finish (h : Recorded marks b) (hl : (l, menu) ∈ b.fetched) :
    Recorded (marks ++ (b.finish l menu).1) (b.finish l menu).2 := by
  have hmem : l.ticket ∈ b.fetched.map (·.1.ticket) :=
    List.mem_map_of_mem (f := (·.1.ticket)) hl
  have hother : l.ticket ∉ b.store.pending.map Load.ticket := by
    intro hpending
    exact (List.nodup_append'.mp (List.nodup_append'.mp h.nodup).1).2.2 hpending hmem
  have hpending : b.store.pending.filter (·.ticket != l.ticket) = b.store.pending :=
    filter_ne_of_not_mem hother
  by_cases hnewest : b.store.generation = l.ticket
  · simp only [Shared.finish, tryCommit, hnewest, if_true]
    exact h.finish_newest hl hnewest rfl hpending rfl rfl rfl
  · simp only [Shared.finish, tryCommit, hnewest, if_false]
    refine h.close (.inr ⟨_, rfl⟩) ?_ List.filter_sublist (List.filter_subset_self _) rfl rfl
    simp only [tickets, retire, hpending]
    exact h.ledger_of_finish hl

theorem Recorded.begin (h : Recorded marks b) :
    Recorded (marks ++ (b.step .begin).1) (b.step .begin).2 := by
  obtain ⟨hdrawn, hoffers, hclosed, hcommits⟩ :
      drawn (marks ++ (b.step .begin).1) = drawn marks ++ [b.store.generation + 1] ∧
        offers (marks ++ (b.step .begin).1) = offers marks ∧
          closed (marks ++ (b.step .begin).1) = closed marks ∧
            commits (marks ++ (b.step .begin).1) = commits marks := by
    simp [step, enter, drawTicket, drawn, offers, closed, commits, Mark.drew?, Mark.offer?,
      Mark.closed?, Mark.commit?]
  have hpending : (b.step .begin).2.store.pending.map Load.ticket =
      b.store.pending.map Load.ticket ++ [b.store.generation + 1] := by
    rw [← List.map_singleton]
    exact List.map_append
  constructor
  case counted =>
    have hrange : List.range' 1 (b.store.generation + 1) =
        List.range' 1 b.store.generation ++ [b.store.generation + 1] := by
      rw [List.range'_1_concat, Nat.add_comm 1]
    rw [hdrawn, h.counted]
    exact hrange.symm
  case ledger =>
    rw [hdrawn, hclosed, tickets, hpending]
    refine List.Perm.trans ?_ (h.ledger.append_right _)
    simp only [tickets, List.append_assoc]
    rw [← List.append_assoc (b.fetched.map _)]
    exact List.perm_append_comm.append_left _
  case offered =>
    rw [hoffers]
    exact h.offered
  case once =>
    rw [hoffers, hpending, List.append_assoc]
    refine List.nodup_middle.mpr (List.nodup_cons.mpr ⟨?_, h.once⟩)
    intro hmem
    rcases List.mem_append.mp hmem with hmem | hmem
    · have := h.le_generation (List.mem_append_left _ (List.mem_append_left _ hmem))
      omega
    · have := h.limited _ hmem
      omega
  case limited =>
    rw [hoffers]
    exact fun ticket hticket => Nat.le_succ_of_le (h.limited ticket hticket)
  case increasing =>
    rw [hcommits]
    exact h.increasing
  case committed =>
    rw [hcommits, hoffers]
    exact h.committed
  case current =>
    rw [hcommits]
    exact h.current

/-- A write is like a load that has its menu at once. -/
theorem Recorded.set (h : Recorded marks b) (menu : List Menu.Entry) :
    Recorded (marks ++ (b.step (.set menu)).1) (b.step (.set menu)).2 := by
  have hl : b.store.enter.1 ∈ (b.step .begin).2.store.pending :=
    List.mem_append_right _ (List.mem_singleton_self _)
  have hreceive := h.begin.receive hl menu
  have hfinish := hreceive.finish (List.mem_append_right _ (List.mem_singleton_self _))
  have hpending : b.store.generation + 1 ∉ b.store.pending.map Load.ticket := by
    intro hmem
    have := h.le_generation (List.mem_append_left _ (List.mem_append_left _ hmem))
    omega
  have hfetched : b.store.generation + 1 ∉ b.fetched.map (·.1.ticket) := by
    intro hmem
    have := h.le_generation (List.mem_append_left _ (List.mem_append_right _ hmem))
    omega
  simp only [List.append_assoc] at hfinish
  simp only [step, enter, drawTicket, Shared.receive, Shared.finish, tryCommit, commit, retire,
    if_true, List.filter_append, filter_ne_of_not_mem hpending, filter_ne_of_not_mem hfetched]
    at hfinish
  refine Recorded.stay hfinish ?_ ?_ rfl rfl <;> simp [step]

theorem Recorded.step (h : Recorded marks b) (e : Event) :
    Recorded (marks ++ (b.step e).1) (b.step e).2 := by
  have hstepped := stepped b e
  generalize b.step e = result at hstepped
  cases hstepped with
  | set menu => exact h.set menu
  | begin => exact h.begin
  | received here => exact h.receive here _
  | failed undrawn here => exact h.fail here _
  | finished here => exact h.finish here
  | aborted here =>
      exact h.close (.inl rfl) (h.ledger_of_leave here) List.filter_sublist (List.Subset.refl _) rfl
        rfl
  | idle undrawn pending generation snapshot =>
      rw [List.append_nil]
      exact h.stay pending rfl generation snapshot

/-- The record of a run is true of the store it has led to. -/
theorem Recorded.run (h : Recorded marks b) (events : List Event) :
    Recorded (marks ++ (b.run events).1) (b.run events).2 := by
  induction events generalizing marks b with
  | nil => simpa [Shared.run] using h
  | cons e events ih => simpa [Shared.run] using ih (h.step e)

theorem recorded_run (source : Source) (timeout : Nat) (events : List Event) :
    Recorded ((fresh source timeout).run events).1 ((fresh source timeout).run events).2 :=
  (recorded_fresh source timeout).run events

end Shared

end ConsoleNav.Store
