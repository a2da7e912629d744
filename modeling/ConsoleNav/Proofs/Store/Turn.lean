import ConsoleNav.Proofs.Keys
import ConsoleNav.Proofs.Store.Polling
import ConsoleNav.Store.Session

/-!
Runs of a store in turns. In a turn the store is written to, a load is begun, goes on or is given up,
an answer is taken, or time passes, which it does only while no load can go on. Whatever a session
does with its store is done in such turns.
-/
namespace ConsoleNav.Store

/-- What a load leaves behind in the record of a run. -/
inductive Moment where
  | begun (l : Load)
  /-- A load has ended at a time. When it went on to its end, `newest` was the newest ticket. -/
  | ended (l : Load) (newest clock : Nat) (answer : Answer)
  | aborted (ticket : Nat)

inductive Turn where
  | set (menu : List Menu.Entry)
  | begin
  /-- A pending load goes on. -/
  | resume (ticket : Nat) (race : Race)
  | abort (ticket : Nat)
  | take (ticket : Nat)
  | pass (target : Nat)

/-- No pending load would come to an end if it went on. -/
def isQuiet (s : Store) : Bool :=
  s.pending.all fun l => (s.poll .ticket false l).1.isNone

/-- Keep the answer of a pending load that has ended. -/
def retire (l : Load) (answer : Answer) (s : Store) : Store :=
  { s with
    pending := s.pending.filter (·.ticket != l.ticket),
    finished := s.finished ++ [(l.ticket, answer)] }

def goOn (race : Race) (passOver : Bool) (l : Load) (s : Store) : List Moment × Store :=
  match s.poll race passOver l with
  | (some answer, t) => ([.ended l s.generation s.clock answer], t.retire l answer)
  | (none, t) => ([], t)

/-- Let time pass up to `target`, or until a load has something to do. -/
def pass (target : Nat) (s : Store) : Store :=
  if s.isQuiet then
    { s with clock := max s.clock ((s.nextWake.map (min target)).getD target) }
  else s

def turn (s : Store) : Turn → List Moment × Store
  | .set menu => ([], (s.set menu).2)
  | .begin =>
    let (l, s) := s.enter
    let (moments, s) := { s with pending := s.pending ++ [l] }.goOn .ticket l.fetch.yields l
    (.begun l :: moments, s)
  | .resume ticket race =>
    match s.pending.find? (·.ticket == ticket) with
    | some l => s.goOn race false l
    | none => ([], s)
  | .abort ticket =>
    let (wasPending, s) := s.abort ticket
    (if wasPending then [.aborted ticket] else [], s)
  | .take ticket => ([], ((s.take? ticket).map Prod.snd).getD s)
  | .pass target => ([], s.pass target)

def turns (s : Store) : List Turn → List Moment × Store
  | [] => ([], s)
  | t :: ts =>
    let (moments, s) := s.turn t
    let (later, s) := s.turns ts
    (moments ++ later, s)

theorem turns_append (s : Store) (ts us : List Turn) :
    s.turns (ts ++ us) =
      ((s.turns ts).1 ++ ((s.turns ts).2.turns us).1, ((s.turns ts).2.turns us).2) := by
  induction ts generalizing s with
  | nil => rfl
  | cons t ts ih => simp [turns, ih]

def Leads (s t : Store) : Prop :=
  ∃ ts, (s.turns ts).2 = t

theorem Leads.refl (s : Store) : Leads s s :=
  ⟨[], rfl⟩

theorem Leads.trans {s t u : Store} (hst : Leads s t) (htu : Leads t u) : Leads s u := by
  obtain ⟨ts, rfl⟩ := hst
  obtain ⟨us, rfl⟩ := htu
  exact ⟨ts ++ us, by rw [turns_append]⟩

theorem Leads.single (s : Store) (t : Turn) : Leads s (s.turn t).2 :=
  ⟨[t], rfl⟩

/-- One store comes from another one in turns each of which satisfies `P`. -/
def Reaches (P : Turn → Prop) (s t : Store) : Prop :=
  ∃ ts, (∀ t ∈ ts, P t) ∧ (s.turns ts).2 = t

variable {P Q : Turn → Prop}

theorem Reaches.leads {s t : Store} (h : Reaches P s t) : Leads s t := by
  obtain ⟨ts, -, hts⟩ := h
  exact ⟨ts, hts⟩

theorem Reaches.mono {s t : Store} (h : Reaches P s t) (hPQ : ∀ t, P t → Q t) : Reaches Q s t := by
  obtain ⟨ts, hP, hts⟩ := h
  exact ⟨ts, fun t ht => hPQ t (hP t ht), hts⟩

theorem Reaches.refl (s : Store) : Reaches P s s :=
  ⟨[], fun _ ht => absurd ht List.not_mem_nil, rfl⟩

theorem Reaches.trans {s t u : Store} (hst : Reaches P s t) (htu : Reaches P t u) :
    Reaches P s u := by
  obtain ⟨ts, hts, rfl⟩ := hst
  obtain ⟨us, hus, rfl⟩ := htu
  exact ⟨ts ++ us, List.forall_mem_append.mpr ⟨hts, hus⟩, by rw [turns_append]⟩

theorem Reaches.single (s : Store) {t : Turn} (h : P t) : Reaches P s (s.turn t).2 :=
  ⟨[t], List.forall_mem_singleton.mpr h, rfl⟩

/-- A turn that needs nobody from outside. -/
def Turn.isInner : Turn → Prop
  | .resume _ _ | .take _ | .pass _ => True
  | .set _ | .begin | .abort _ => False

/-- What comes of a store that is left to itself. -/
abbrev Drifts (s t : Store) : Prop :=
  Reaches Turn.isInner s t

/-- Pending loads have tickets of their own, all of which have been drawn. -/
structure Ordered (s : Store) : Prop where
  distinct : (s.pending.map Load.ticket).Nodup
  drawn : ∀ l ∈ s.pending, l.ticket ≤ s.generation

theorem Ordered.mono {s t : Store} (h : Ordered s) (hpending : t.pending.Sublist s.pending)
    (hgeneration : s.generation ≤ t.generation) : Ordered t where
  distinct := h.distinct.sublist (hpending.map _)
  drawn l hl := Nat.le_trans (h.drawn l (hpending.subset hl)) hgeneration

theorem goOn_frame (race : Race) (passOver : Bool) (l : Load) (s : Store) :
    (s.goOn race passOver l).2.pending.Sublist s.pending ∧
      s.generation ≤ (s.goOn race passOver l).2.generation := by
  obtain ⟨generation, snapshot, hle, hframe⟩ := poll_frame race passOver l s
  unfold goOn
  rcases hpoll : s.poll race passOver l with ⟨_ | answer, t⟩ <;> rw [hpoll] at hframe <;> subst hframe
  · exact ⟨List.Sublist.refl _, hle⟩
  · exact ⟨List.filter_sublist, hle⟩

theorem Ordered.enter {s : Store} (h : Ordered s) :
    Ordered { s.enter.2 with pending := s.enter.2.pending ++ [s.enter.1] } where
  distinct := by
    change ((s.pending ++ [s.enter.1]).map Load.ticket).Nodup
    rw [List.map_append, List.nodup_append']
    refine ⟨h.distinct, List.nodup_singleton _, ?_⟩
    rw [List.map_singleton, List.disjoint_singleton]
    intro hmem
    obtain ⟨l, hl, hticket⟩ := List.mem_map.mp hmem
    have hle := h.drawn l hl
    have hnew : s.enter.1.ticket = s.generation + 1 := rfl
    omega
  drawn l hl := by
    change l.ticket ≤ s.generation + 1
    rcases List.mem_append.mp hl with hl | hl
    · exact Nat.le_trans (h.drawn l hl) (Nat.le_succ _)
    · rw [List.mem_singleton.mp hl]
      exact Nat.le_refl _

theorem Ordered.turn {s : Store} (h : Ordered s) (t : Turn) : Ordered (s.turn t).2 := by
  cases t with
  | set menu => exact h.mono (List.Sublist.refl _) (Nat.le_succ _)
  | begin => exact h.enter.mono (goOn_frame _ _ _ _).1 (goOn_frame _ _ _ _).2
  | resume ticket race =>
      simp only [Store.turn]
      split
      · exact h.mono (goOn_frame _ _ _ _).1 (goOn_frame _ _ _ _).2
      · exact h
  | abort ticket => exact h.mono List.filter_sublist (Nat.le_refl _)
  | take ticket =>
      simp only [Store.turn, take?]
      split <;> exact h.mono (List.Sublist.refl _) (Nat.le_refl _)
  | pass target =>
      simp only [Store.turn, pass]
      split <;> exact h.mono (List.Sublist.refl _) (Nat.le_refl _)

theorem Ordered.leads {s t : Store} (h : Ordered s) (hst : Leads s t) : Ordered t := by
  obtain ⟨ts, rfl⟩ := hst
  induction ts generalizing s with
  | nil => exact h
  | cons t ts ih => exact ih (h.turn t)

theorem ordered_fresh (source : Source) (timeout : Nat) : Ordered (fresh source timeout) where
  distinct := List.nodup_nil
  drawn _ hl := absurd hl List.not_mem_nil

/-! ### Rounds of turns -/

theorem any_ticket_iff {ls : List Load} {ticket : Nat} :
    ls.any (·.ticket == ticket) = true ↔ ticket ∈ ls.map Load.ticket := by
  rw [List.any_eq_true, List.mem_map]
  simp only [beq_iff_eq]

/-- Letting a load go on in its place among the pending ones is the same as taking it out and keeping
what comes of it. -/
theorem goOn_eq_keep (race : Race) (passOver : Bool) (l : Load) (s : Store) (ls : List Load)
    (hother : l.ticket ∉ (s.pending ++ ls).map Load.ticket) :
    ({ s with pending := s.pending ++ l :: ls }.goOn race passOver l).2 =
      { keep l (s.poll race passOver l) with
        pending := (keep l (s.poll race passOver l)).pending ++ ls } := by
  obtain ⟨generation, snapshot, -, hframe⟩ := poll_frame race passOver l s
  simp only [goOn, poll_pending]
  rcases hpoll : s.poll race passOver l with ⟨_ | answer, t⟩ <;> rw [hpoll] at hframe <;> subst hframe
  · simp [keep]
  · have hbefore : l.ticket ∉ s.pending.map Load.ticket := by simp_all
    have hafter : l.ticket ∉ ls.map Load.ticket := by simp_all
    simp [keep, retire, filter_ne_of_not_mem hbefore, filter_ne_of_not_mem hafter]

theorem pollEach_drifts (ls : List Load) (s : Store)
    (h : Ordered { s with pending := s.pending ++ ls }) :
    Drifts { s with pending := s.pending ++ ls } (pollEach ls s) := by
  -- The pending loads of `s` are those that have gone on already in this round.
  induction ls generalizing s with
  | nil => simpa [pollEach] using Reaches.refl s
  | cons l ls ih =>
      have hother : l.ticket ∉ (s.pending ++ ls).map Load.ticket := by
        have := h.distinct
        rw [List.map_append, List.map_cons, List.nodup_middle, List.nodup_cons] at this
        rw [List.map_append]
        exact this.1
      have hturn : Drifts { s with pending := s.pending ++ l :: ls }
          { keep l (s.poll .ticket false l) with
            pending := (keep l (s.poll .ticket false l)).pending ++ ls } := by
        refine ⟨[.resume l.ticket .ticket], List.forall_mem_singleton.mpr trivial, ?_⟩
        have hfind := find?_of_nodup h.distinct (x := l) (by simp)
        rw [← goOn_eq_keep .ticket false l s ls hother]
        simp only [turns, turn, hfind]
      exact hturn.trans (ih _ (h.leads hturn.leads))

theorem pollAll_drifts {s : Store} (h : Ordered s) : Drifts s s.pollAll :=
  pollEach_drifts s.pending { s with pending := [] } h

theorem pollTimes_drifts (n : Nat) {s : Store} (h : Ordered s) : Drifts s (pollTimes n s) := by
  induction n generalizing s with
  | zero => exact Reaches.refl s
  | succ n ih => exact (pollAll_drifts h).trans (ih (h.leads (pollAll_drifts h).leads))

theorem settle_drifts {s : Store} (h : Ordered s) : Drifts s s.settle :=
  pollTimes_drifts _ h

end ConsoleNav.Store
