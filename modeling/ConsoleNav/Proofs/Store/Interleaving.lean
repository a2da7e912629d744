import ConsoleNav.Proofs.Store.SessionTurn

/-!
A store that is shared: what is done to it and what its loads do happens in any order, whoever is at
work. A load draws its ticket, its source answers, and it tries to commit, and between these events
there may be any others. Runs of a store in turns are such runs, in which a load that has its menu
commits at once.
-/
namespace ConsoleNav.Store

/-- The menus that a source sets itself in its answers to come. -/
def Source.writes : Source → List (List Menu.Entry)
  | .script fetches => fetches.filterMap Fetch.writes
  | .builtIn _ | .remote _ _ => []

/-- A store together with the loads that have got a menu of the right shape from their source and are
about to commit it. Those that wait for their source are the pending ones of the store. -/
structure Shared where
  store : Store
  fetched : List (Load × List Menu.Entry) := []

inductive Event where
  /-- Somebody, maybe a source that is being asked, sets the menu. -/
  | set (menu : List Menu.Entry)
  | begin
  /-- The source of a pending load answers. -/
  | answer (ticket : Nat) (outcome : Except FetchFault (List Menu.Entry))
  /-- A pending load finds that its ticket is not the newest one. -/
  | supersede (ticket : Nat)
  /-- A pending load finds that its deadline is over. -/
  | timeOut (ticket : Nat)
  /-- A load that has got a menu tries to commit it. -/
  | commit (ticket : Nat)
  | abort (ticket : Nat)
  | take (ticket : Nat)
  | pass (target : Nat)

def Event.draws : Event → Bool
  | .set _ | .begin => true
  | _ => false

/-- An event that needs nobody from outside: loads go on, and their sources do what they have been
asked for. -/
def Event.isInner (b : Shared) : Event → Prop
  | .set menu => ∃ l ∈ b.store.pending, l.fetch.writes = some menu
  | .answer ticket outcome =>
    ∃ l ∈ b.store.pending, l.ticket = ticket ∧ l.fetch.outcome = some outcome
  | .begin | .abort _ => False
  | .supersede _ | .timeOut _ | .commit _ | .take _ | .pass _ => True

/-- The events in the life of the load with a ticket, when `newest` is the newest ticket. -/
def Event.isOf (newest ticket : Nat) : Event → Prop
  | .begin => ticket = newest + 1
  | .answer other _ | .supersede other | .timeOut other | .commit other | .abort other =>
    other = ticket
  | .set _ | .take _ | .pass _ => False

/-- What an event leaves behind in the record of a run. -/
inductive Mark where
  | drew (ticket : Nat)
  /-- The write or load with a ticket has a menu to commit. -/
  | offered (ticket : Nat) (menu : List Menu.Entry)
  /-- The write or load with a ticket has come to its end. -/
  | returned (ticket : Nat) (answer : Answer)
  | aborted (ticket : Nat)

namespace Shared

def fresh (source : Source) (timeout : Nat) : Shared where
  store := .fresh source timeout

def pending? (b : Shared) (ticket : Nat) : Option Load :=
  b.store.pending.find? (·.ticket == ticket)

def fetched? (b : Shared) (ticket : Nat) : Option (Load × List Menu.Entry) :=
  b.fetched.find? (·.1.ticket == ticket)

def fail (b : Shared) (l : Load) (fault : LoadFault) : List Mark × Shared :=
  ([.returned l.ticket (.error fault)], { b with store := b.store.retire l (.error fault) })

/-- A pending load has got its menu. -/
def receive (b : Shared) (l : Load) (menu : List Menu.Entry) : List Mark × Shared :=
  ([.offered l.ticket menu],
    { store := { b.store with pending := b.store.pending.filter (·.ticket != l.ticket) },
      fetched := b.fetched ++ [(l, menu)] })

def finish (b : Shared) (l : Load) (menu : List Menu.Entry) : List Mark × Shared :=
  let (answer, store) := b.store.tryCommit l menu
  ([.returned l.ticket answer],
    { store := store.retire l answer, fetched := b.fetched.filter (·.1.ticket != l.ticket) })

/-- What happens in an event. An event that cannot happen changes nothing. -/
def step (b : Shared) : Event → List Mark × Shared
  | .set menu =>
    let (snapshot, store) := b.store.set menu
    ([.drew store.generation, .offered store.generation menu,
      .returned store.generation (.ok snapshot)], { b with store })
  | .begin =>
    let (l, store) := b.store.enter
    ([.drew l.ticket], { b with store := { store with pending := store.pending ++ [l] } })
  | .answer ticket outcome =>
    match b.pending? ticket with
    | none => ([], b)
    | some l =>
      match judge outcome with
      | .ok menu => b.receive l menu
      | .error fault => b.fail l fault
  | .supersede ticket =>
    match b.pending? ticket with
    | none => ([], b)
    | some l => if b.store.generation ≠ l.ticket then b.fail l .superseded else ([], b)
  | .timeOut ticket =>
    match b.pending? ticket with
    | none => ([], b)
    | some l =>
      if l.deadline b.store.timeout ≤ b.store.clock then
        b.fail l (.fetch (.timedOut b.store.timeout))
      else ([], b)
  | .commit ticket =>
    match b.fetched? ticket with
    | none => ([], b)
    | some (l, menu) => b.finish l menu
  | .abort ticket =>
    let (wasPending, store) := b.store.abort ticket
    (if wasPending then [.aborted ticket] else [], { b with store })
  | .take ticket =>
    ([], { b with store := ((b.store.take? ticket).map Prod.snd).getD b.store })
  | .pass target => ([], { b with store := { b.store with clock := max b.store.clock target } })

/-- What can come of an event. -/
inductive Stepped (b : Shared) : Event → List Mark × Shared → Prop
  | set (menu : List Menu.Entry) : Stepped b (.set menu) (b.step (.set menu))
  | begin : Stepped b .begin (b.step .begin)
  | received {l : Load} {outcome : Except FetchFault (List Menu.Entry)} {menu : List Menu.Entry}
      (here : l ∈ b.store.pending) (judged : judge outcome = .ok menu) :
      Stepped b (.answer l.ticket outcome) (b.receive l menu)
  | failed {e : Event} {l : Load} {fault : LoadFault} (undrawn : e.draws = false)
      (here : l ∈ b.store.pending) : Stepped b e (b.fail l fault)
  | finished {l : Load} {menu : List Menu.Entry} (here : (l, menu) ∈ b.fetched) :
      Stepped b (.commit l.ticket) (b.finish l menu)
  | aborted {ticket : Nat} (here : ticket ∈ b.store.pending.map Load.ticket) :
      Stepped b (.abort ticket) ([.aborted ticket], { b with store := (b.store.abort ticket).2 })
  | idle {e : Event} {store : Store} (undrawn : e.draws = false)
      (pending : store.pending = b.store.pending) (generation : store.generation = b.store.generation)
      (snapshot : store.snapshot = b.store.snapshot) (source : store.source = b.store.source)
      (timeout : store.timeout = b.store.timeout) : Stepped b e ([], { b with store })

theorem of_pending? {b : Shared} {ticket : Nat} {l : Load} (h : b.pending? ticket = some l) :
    l ∈ b.store.pending ∧ l.ticket = ticket :=
  ⟨List.mem_of_find?_eq_some h, by simpa using List.find?_some h⟩

theorem stepped (b : Shared) (e : Event) : Stepped b e (b.step e) := by
  have hidle {e : Event} (undrawn : e.draws = false) : Stepped b e ([], b) :=
    .idle undrawn rfl rfl rfl rfl rfl
  cases e with
  | set menu => exact .set menu
  | begin => exact .begin
  | answer ticket outcome =>
      simp only [step]
      cases hfind : b.pending? ticket with
      | none => exact hidle rfl
      | some l =>
          obtain ⟨here, rfl⟩ := of_pending? hfind
          cases hjudge : judge outcome with
          | ok menu => exact .received here hjudge
          | error fault => exact .failed rfl here
  | supersede ticket | timeOut ticket =>
      simp only [step]
      cases hfind : b.pending? ticket with
      | none => exact hidle rfl
      | some l =>
          dsimp only
          split
          · exact .failed rfl (of_pending? hfind).1
          · exact hidle rfl
  | commit ticket =>
      simp only [step]
      cases hfind : b.fetched? ticket with
      | none => exact hidle rfl
      | some x =>
          obtain ⟨l, menu⟩ := x
          have hticket : l.ticket = ticket := by simpa using List.find?_some hfind
          exact hticket ▸ .finished (List.mem_of_find?_eq_some hfind)
  | abort ticket =>
      by_cases here : ticket ∈ b.store.pending.map Load.ticket
      · have hstep : b.step (.abort ticket) =
            ([.aborted ticket], { b with store := (b.store.abort ticket).2 }) :=
          Prod.ext (if_pos (any_ticket_iff.mpr here)) rfl
        exact hstep ▸ .aborted here
      · have hstep : b.step (.abort ticket) = ([], { b with store := (b.store.abort ticket).2 }) :=
          Prod.ext (if_neg (mt any_ticket_iff.mp here)) rfl
        exact hstep ▸ .idle rfl (filter_ne_of_not_mem here) rfl rfl rfl rfl
  | take ticket =>
      simp only [step, Store.take?]
      split <;> exact .idle rfl rfl rfl rfl rfl rfl
  | pass target => exact .idle rfl rfl rfl rfl rfl rfl

theorem pending_step (b : Shared) (e : Event) :
    ∀ l ∈ (b.step e).2.store.pending,
      l ∈ b.store.pending ∨ e = .begin ∧ l = b.store.enter.1 := by
  have hstepped := stepped b e
  generalize b.step e = result at hstepped
  intro l hl
  cases hstepped with
  | set => exact .inl hl
  | begin =>
      rcases List.mem_append.mp hl with hl | hl
      · exact .inl hl
      · exact .inr ⟨rfl, List.mem_singleton.mp hl⟩
  | received | failed | aborted => exact .inl (List.mem_of_mem_filter hl)
  | @finished k menu here =>
      exact .inl (pending_tryCommit k menu b.store ▸ List.mem_of_mem_filter hl)
  | idle undrawn pending => exact .inl (pending ▸ hl)

/-- Only a load that begins asks the source. -/
theorem source_step (b : Shared) {e : Event} (h : e ≠ .begin) :
    (b.step e).2.store.source = b.store.source ∧
      (b.step e).2.store.timeout = b.store.timeout := by
  have hstepped := stepped b e
  generalize b.step e = result at hstepped
  cases hstepped with
  | begin => exact absurd rfl h
  | set | received | failed | aborted => exact ⟨rfl, rfl⟩
  | @finished l menu here =>
      exact ⟨source_tryCommit l menu b.store, timeout_tryCommit l menu b.store⟩
  | idle undrawn pending generation snapshot source timeout => exact ⟨source, timeout⟩

def run (b : Shared) : List Event → List Mark × Shared
  | [] => ([], b)
  | e :: es =>
    let (marks, b) := b.step e
    let (later, b) := b.run es
    (marks ++ later, b)

theorem run_append (b : Shared) (es fs : List Event) :
    b.run (es ++ fs) =
      ((b.run es).1 ++ ((b.run es).2.run fs).1, ((b.run es).2.run fs).2) := by
  induction es generalizing b with
  | nil => rfl
  | cons e es ih => simp [run, ih]

def Leads (b c : Shared) : Prop :=
  ∃ es, (b.run es).2 = c

/-- One shared store comes from another one in events each of which satisfies `P`. -/
def Reaches (P : Event → Prop) (b c : Shared) : Prop :=
  ∃ es, (∀ e ∈ es, P e) ∧ (b.run es).2 = c

section Reaches

variable {P : Event → Prop} {b c d : Shared}

theorem Reaches.leads (h : Reaches P b c) : Leads b c := by
  obtain ⟨es, -, hes⟩ := h
  exact ⟨es, hes⟩

theorem Reaches.refl (b : Shared) : Reaches P b b :=
  ⟨[], fun _ he => absurd he List.not_mem_nil, rfl⟩

theorem Reaches.trans (hbc : Reaches P b c) (hcd : Reaches P c d) : Reaches P b d := by
  obtain ⟨es, hes, rfl⟩ := hbc
  obtain ⟨fs, hfs, rfl⟩ := hcd
  exact ⟨es ++ fs, List.forall_mem_append.mpr ⟨hes, hfs⟩, by rw [run_append]⟩

theorem Reaches.single (b : Shared) {e : Event} (h : P e) : Reaches P b (b.step e).2 :=
  ⟨[e], List.forall_mem_singleton.mpr h, rfl⟩

end Reaches

end Shared

/-! ### Turns as events -/

variable {W : List Menu.Entry → Prop} {s : Store} {l : Load}

/-- All that sources still write satisfies `W`. -/
structure Sourced (W : List Menu.Entry → Prop) (s : Store) : Prop where
  pending : ∀ l ∈ s.pending, ∀ menu, l.fetch.writes = some menu → W menu
  source : ∀ menu ∈ s.source.writes, W menu

theorem Source.writes_next (timeout : Nat) (source : Source) :
    (∀ menu, (source.next timeout).1.writes = some menu → menu ∈ source.writes) ∧
      (source.next timeout).2.writes ⊆ source.writes := by
  cases source with
  | builtIn delay =>
      cases delay with
      | none => exact ⟨fun _ h => (nomatch h), List.Subset.refl _⟩
      | some _ => exact ⟨fun _ h => (nomatch h), List.Subset.refl _⟩
  | remote r responses => exact ⟨fun _ h => (nomatch h), List.Subset.refl _⟩
  | script fetches =>
      cases fetches with
      | nil => exact ⟨fun _ h => (nomatch h), List.Subset.refl _⟩
      | cons fetch rest =>
          constructor
          · intro menu hmenu
            exact List.mem_filterMap.mpr ⟨fetch, List.mem_cons_self, hmenu⟩
          · exact ((List.sublist_cons_self fetch rest).filterMap _).subset

theorem Sourced.mono {t : Store} (h : Sourced W s) (hpending : t.pending.Sublist s.pending)
    (hsource : t.source = s.source) : Sourced W t where
  pending l hl := h.pending l (hpending.subset hl)
  source := hsource ▸ h.source

theorem goOn_source (race : Race) (passOver : Bool) (l : Load) (s : Store) :
    (s.goOn race passOver l).2.source = s.source := by
  obtain ⟨generation, snapshot, -, hframe⟩ := poll_frame race passOver l s
  unfold goOn
  rcases hpoll : s.poll race passOver l with ⟨_ | answer, t⟩ <;> rw [hpoll] at hframe <;>
    subst hframe <;> rfl

theorem Sourced.enter (h : Sourced W s) :
    Sourced W { s.enter.2 with pending := s.enter.2.pending ++ [s.enter.1] } := by
  obtain ⟨hfetch, hrest⟩ := s.source.writes_next s.timeout
  constructor
  case pending =>
    intro l hl menu hmenu
    rcases List.mem_append.mp hl with hl | hl
    · exact h.pending l hl menu hmenu
    · rw [List.mem_singleton.mp hl] at hmenu
      exact h.source menu (hfetch menu hmenu)
  case source => exact fun menu hmenu => h.source menu (hrest hmenu)

theorem Sourced.turn (h : Sourced W s) (t : Turn) : Sourced W (s.turn t).2 := by
  cases t with
  | set menu => exact h.mono (List.Sublist.refl _) rfl
  | begin => exact h.enter.mono (goOn_frame _ _ _ _).1 (goOn_source _ _ _ _)
  | resume ticket race =>
      simp only [Store.turn]
      split
      · exact h.mono (goOn_frame _ _ _ _).1 (goOn_source _ _ _ _)
      · exact h
  | abort ticket => exact h.mono List.filter_sublist rfl
  | take ticket =>
      simp only [Store.turn, take?]
      split <;> exact h.mono (List.Sublist.refl _) rfl
  | pass target =>
      simp only [Store.turn, pass]
      split <;> exact h.mono (List.Sublist.refl _) rfl

theorem Sourced.leads {t : Store} (h : Sourced W s) (hst : Leads s t) : Sourced W t := by
  obtain ⟨ts, rfl⟩ := hst
  induction ts generalizing s with
  | nil => exact h
  | cons t ts ih => exact ih (h.turn t)

theorem sourced_fresh (source : Source) (timeout : Nat) :
    Sourced (· ∈ source.writes) (fresh source timeout) where
  pending _ hl := absurd hl List.not_mem_nil
  source _ hmenu := hmenu

namespace Shared

/-- What comes of a shared store that is left to itself. -/
inductive Drifts : Shared → Shared → Prop
  | refl (b : Shared) : Drifts b b
  | event {b c : Shared} (e : Event) (inner : e.isInner b) (later : Drifts (b.step e).2 c) :
      Drifts b c

theorem Drifts.single {b : Shared} {e : Event} (inner : e.isInner b) : Drifts b (b.step e).2 :=
  .event e inner (.refl _)

theorem Drifts.trans {b c d : Shared} (hbc : Drifts b c) (hcd : Drifts c d) : Drifts b d := by
  induction hbc with
  | refl b => exact hcd
  | event e inner later ih => exact .event e inner (ih hcd)

theorem letWrite_drifts (here : l ∈ s.pending) : Drifts ⟨s, []⟩ ⟨s.letWrite l, []⟩ := by
  cases hmenu : l.fetch.writes with
  | none =>
      simp only [letWrite, hmenu]
      exact .refl _
  | some menu =>
      simp only [letWrite, hmenu]
      exact .single (b := ⟨s, []⟩) (e := .set menu) ⟨l, here, hmenu⟩

theorem conclude_drifts (hfind : s.pending.find? (·.ticket == l.ticket) = some l)
    {outcome : Except FetchFault (List Menu.Entry)} (given : l.fetch.outcome = some outcome) :
    Drifts ⟨s, []⟩ ⟨(s.conclude l outcome).2.retire l (s.conclude l outcome).1, []⟩ := by
  have hanswer : Drifts ⟨s, []⟩ (Shared.step ⟨s, []⟩ (.answer l.ticket outcome)).2 :=
    .single ⟨l, List.mem_of_find?_eq_some hfind, rfl, given⟩
  simp only [step, pending?, hfind] at hanswer
  unfold conclude
  cases hjudge : judge outcome with
  | error fault =>
      simp only [hjudge, fail] at hanswer
      exact hanswer
  | ok menu =>
      simp only [hjudge, receive, List.nil_append] at hanswer
      refine hanswer.trans (.event (.commit l.ticket) trivial ?_)
      simp [step, fetched?, finish, tryCommit_pending, retire, Drifts.refl]

theorem timeOut_drifts (hfind : s.pending.find? (·.ticket == l.ticket) = some l)
    (hlate : l.deadline s.timeout ≤ s.clock) :
    Drifts ⟨s, []⟩ ⟨s.retire l (.error (.fetch (.timedOut s.timeout))), []⟩ := by
  refine .event (.timeOut l.ticket) trivial ?_
  simp [step, pending?, hfind, hlate, fail, Drifts.refl]

theorem supersede_drifts (hfind : s.pending.find? (·.ticket == l.ticket) = some l)
    (holder : s.generation ≠ l.ticket) :
    Drifts ⟨s, []⟩ ⟨s.retire l (.error .superseded), []⟩ := by
  refine .event (.supersede l.ticket) trivial ?_
  simp [step, pending?, hfind, holder, fail, Drifts.refl]

theorem goOn_drifts (race : Race) (passOver : Bool)
    (hfind : s.pending.find? (·.ticket == l.ticket) = some l) (hdrawn : l.ticket ≤ s.generation) :
    Drifts ⟨s, []⟩ ⟨(s.goOn race passOver l).2, []⟩ := by
  have here : l ∈ s.pending := List.mem_of_find?_eq_some hfind
  have hpolled := polled race passOver l s
  unfold goOn
  generalize s.poll race passOver l = result at hpolled
  cases hpolled with
  | superseded older => exact supersede_drifts hfind older
  | answered newest due _ given =>
      obtain ⟨generation, snapshot, -, hframe⟩ := letWrite_frame l s
      have hfind' : (s.letWrite l).pending.find? (·.ticket == l.ticket) = some l := by
        rw [hframe]
        exact hfind
      exact (letWrite_drifts here).trans (conclude_drifts hfind' given)
  | @wrote newest due _ hangs menu writes =>
      have hset : Drifts ⟨s, []⟩ (Shared.step ⟨s, []⟩ (.set menu)).2 := .single ⟨l, here, writes⟩
      refine hset.trans ?_
      dsimp only [step]
      split
      · rename_i hlate
        exact timeOut_drifts hfind hlate
      · exact supersede_drifts hfind (Nat.ne_of_gt (Nat.lt_succ_of_le hdrawn))
  | timedOut newest idle late => exact timeOut_drifts hfind late
  | waits => exact .refl _

theorem begin_drifts (h : Ordered s) :
    Drifts (Shared.step ⟨s, []⟩ .begin).2 ⟨(s.turn .begin).2, []⟩ := by
  have hmem : s.enter.1 ∈ s.enter.2.pending ++ [s.enter.1] :=
    List.mem_append_right _ (List.mem_singleton_self _)
  exact goOn_drifts _ _ (find?_of_nodup h.enter.distinct hmem) (Nat.le_refl _)

theorem turn_drifts (h : Ordered s) {t : Turn} (ht : t.isInner) :
    Drifts ⟨s, []⟩ ⟨(s.turn t).2, []⟩ := by
  cases t with
  | set | begin | abort => exact absurd ht id
  | resume ticket race =>
      simp only [turn]
      split
      · rename_i l hfind
        have hticket : l.ticket = ticket := by simpa using List.find?_some hfind
        rw [← hticket] at hfind
        exact goOn_drifts race false hfind (h.drawn l (List.mem_of_find?_eq_some hfind))
      · exact .refl _
  | take ticket => exact .single (b := ⟨s, []⟩) (e := .take ticket) trivial
  | pass target =>
      simp only [turn, Store.pass]
      split
      · exact .single (b := ⟨s, []⟩) (e := .pass ((s.nextWake.map (min target)).getD target)) trivial
      · exact .refl _

/-- A store that is left to itself as turns go is so as events go. -/
theorem drifts_of_turns {t : Store} (h : Ordered s) (hst : Store.Drifts s t) : Drifts ⟨s, []⟩ ⟨t, []⟩ := by
  obtain ⟨ts, hts, rfl⟩ := hst
  induction ts generalizing s with
  | nil => exact .refl _
  | cons t ts ih =>
      rw [List.forall_mem_cons] at hts
      exact (turn_drifts h hts.1).trans (ih (h.turn t) hts.2)

end Shared

/-- An event that sets a menu only if it satisfies `W`. -/
def Event.setsOnly (W : List Menu.Entry → Prop) : Event → Prop
  | .set menu => W menu
  | _ => True

namespace Shared

theorem Drifts.reaches {b c : Shared} (h : Drifts b c)
    (hwrites : ∀ l ∈ b.store.pending, ∀ menu, l.fetch.writes = some menu → W menu) :
    Reaches (Event.setsOnly W) b c := by
  induction h with
  | refl b => exact .refl b
  | @event b c e inner later ih =>
      have hsets : e.setsOnly W := by
        cases e with
        | set menu =>
            obtain ⟨l, hl, hmenu⟩ := inner
            exact hwrites l hl menu hmenu
        | begin | answer | supersede | timeOut | commit | abort | take | pass => trivial
      refine (Reaches.single b hsets).trans (ih fun l hl => ?_)
      rcases pending_step b e l hl with hold | ⟨rfl, -⟩
      · exact hwrites l hold
      · exact absurd inner id

theorem turn_reaches (h : Ordered s) (hsourced : Sourced W s) (t : Turn)
    (hset : ∀ menu, t = .set menu → W menu) :
    Reaches (Event.setsOnly W) ⟨s, []⟩ ⟨(s.turn t).2, []⟩ := by
  cases t with
  | set menu => exact .single ⟨s, []⟩ (e := .set menu) (hset menu rfl)
  | begin =>
      have hbegin : Reaches (Event.setsOnly W) ⟨s, []⟩ (Shared.step ⟨s, []⟩ .begin).2 :=
        .single _ trivial
      exact hbegin.trans ((begin_drifts h).reaches hsourced.enter.pending)
  | abort ticket => exact .single ⟨s, []⟩ (e := .abort ticket) trivial
  | resume ticket race | take ticket | pass target =>
      exact (turn_drifts h (by trivial)).reaches hsourced.pending

/-- Every run of a store in turns is a run of a shared store. -/
theorem reaches_of_turns {P : Turn → Prop} {t : Store} (h : Ordered s) (hsourced : Sourced W s)
    (hst : Store.Reaches P s t) (hP : ∀ menu, P (.set menu) → W menu) :
    Reaches (Event.setsOnly W) ⟨s, []⟩ ⟨t, []⟩ := by
  obtain ⟨ts, hts, rfl⟩ := hst
  induction ts generalizing s with
  | nil => exact .refl _
  | cons t ts ih =>
      rw [List.forall_mem_cons] at hts
      refine (turn_reaches h hsourced t ?_).trans (ih (h.turn t) (hsourced.turn t) hts.2)
      rintro menu rfl
      exact hP menu hts.1

theorem leads_of_turns {t : Store} (h : Ordered s) (hst : Store.Leads s t) :
    Leads ⟨s, []⟩ ⟨t, []⟩ := by
  obtain ⟨ts, hts⟩ := hst
  have hsourced : Sourced (fun _ => True) s := ⟨fun _ _ _ _ => trivial, fun _ _ => trivial⟩
  have hreaches : Store.Reaches (fun _ => True) s t := ⟨ts, fun _ _ => trivial, hts⟩
  exact (reaches_of_turns h hsourced hreaches fun _ _ => trivial).leads

theorem step_reaches {s : Session} (h : Ordered s.store) (hsourced : Sourced W s.store) (step : Step)
    (hset : ∀ menu, step = .set menu → W menu) :
    Reaches (Event.setsOnly W) ⟨s.store, []⟩ ⟨(s.step step).2.store, []⟩ :=
  reaches_of_turns h hsourced (Store.step_reaches h step) hset

/-- Every store that a session passes through comes from the first one in events in which only the
session and the sources of its loads set menus. -/
theorem run_reaches {s : Session} (h : Ordered s.store) (hsourced : Sourced W s.store)
    (steps : List Step) (hset : ∀ menu, .set menu ∈ steps → W menu) :
    ∀ x ∈ s.run steps, Reaches (Event.setsOnly W) ⟨s.store, []⟩ ⟨x.2.store, []⟩ := by
  induction steps generalizing s with
  | nil => exact fun x hx => absurd hx List.not_mem_nil
  | cons step steps ih =>
      have hstep := step_reaches h hsourced step fun menu hmenu => hset menu (by simp [hmenu])
      have hleads := step_leads h step
      intro x hx
      rcases List.mem_cons.mp hx with rfl | hx
      · exact hstep
      · refine hstep.trans (ih (h.leads hleads) (hsourced.leads hleads) ?_ x hx)
        exact fun menu hmenu => hset menu (List.mem_cons_of_mem step hmenu)

theorem session_reaches (source : Source) (timeout : Nat) (steps : List Step) :
    ∀ x ∈ Session.run ⟨.fresh source timeout, [], []⟩ steps,
      Reaches (Event.setsOnly fun menu => .set menu ∈ steps ∨ menu ∈ source.writes)
        (fresh source timeout) ⟨x.2.store, []⟩ := by
  have hsourced := sourced_fresh source timeout
  refine run_reaches (ordered_fresh source timeout) ⟨?_, ?_⟩ steps fun _ => .inl
  · exact fun l hl menu hmenu => .inr (hsourced.pending l hl menu hmenu)
  · exact fun menu hmenu => .inr hmenu

theorem session_leads (source : Source) (timeout : Nat) (steps : List Step) :
    ∀ x ∈ Session.run ⟨.fresh source timeout, [], []⟩ steps,
      Leads (fresh source timeout) ⟨x.2.store, []⟩ :=
  fun x hx => (session_reaches source timeout steps x hx).leads

end Shared

end ConsoleNav.Store
