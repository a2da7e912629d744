import ConsoleNav.Proofs.Store.Clock
import ConsoleNav.Proofs.Store.SingleFlight

/-!
What a run of a store has drawn and consumed. Each write and each load draws one ticket, whatever becomes
of it, and each load makes one fetch, for which it gets the next answer of the source.
-/
namespace ConsoleNav.Store

def Turn.set? : Turn → Option (List Menu.Entry)
  | .set menu => some menu
  | .begin | .resume _ _ | .abort _ | .take _ | .pass _ => none

def Turn.begins : Turn → Bool
  | .begin => true
  | .set _ | .resume _ _ | .abort _ | .take _ | .pass _ => false

def Step.set? : Step → Option (List Menu.Entry)
  | .set menu => some menu
  | _ => none

def Step.begins : Step → Bool
  | .load | .start _ => true
  | _ => false

def Moment.begun? : Moment → Option Load
  | .begun l => some l
  | .ended .. | .aborted _ => none

/-- The loads that have begun in a run, in this order. -/
def begun (moments : List Moment) : List Load :=
  moments.filterMap Moment.begun?

/-- The menu that the source of a load sets by itself when the load goes on. -/
def ownWrite? (race : Race) (passOver : Bool) (l : Load) (s : Store) : Option (List Menu.Entry) :=
  if (race = .source ∨ s.generation = l.ticket) ∧ l.isDue s.clock = true ∧ passOver = false then
    l.fetch.writes
  else none

/-- The menu that a source sets by itself in a turn. -/
def sourceWrite? (s : Store) : Turn → Option (List Menu.Entry)
  | .begin => s.enter.2.ownWrite? .ticket s.enter.1.fetch.yields s.enter.1
  | .resume ticket race =>
    (s.pending.find? (·.ticket == ticket)).bind fun l => s.ownWrite? race false l
  | .set _ | .abort _ | .take _ | .pass _ => none

def sourceWrites (s : Store) : List Turn → List (List Menu.Entry)
  | [] => []
  | t :: ts => (s.sourceWrite? t).toList ++ (s.turn t).2.sourceWrites ts

variable {s : Store} {fetches : List Fetch}

/-! ### One turn -/

theorem letWrite_generation (l : Load) (s : Store) :
    (s.letWrite l).generation = s.generation + l.fetch.writes.toList.length := by
  unfold letWrite
  cases l.fetch.writes <;> rfl

theorem poll_generation (race : Race) (passOver : Bool) (l : Load) (s : Store) :
    (s.poll race passOver l).2.generation =
      s.generation + (s.ownWrite? race passOver l).toList.length := by
  have hpolled := polled race passOver l s
  generalize s.poll race passOver l = result at hpolled
  cases hpolled with
  | superseded older unready =>
      rw [ownWrite?, if_neg]
      · rfl
      · rintro ⟨ready, due, here⟩
        rw [(unready (ready.resolve_right older)).1 due] at here
        cases here
  | answered ready due here =>
      rw [ownWrite?, if_pos ⟨ready, due, here⟩, conclude_frame]
      exact letWrite_generation l s
  | wrote ready due here hangs writes =>
      have hwrite : s.ownWrite? race passOver l = _ := (if_pos ⟨ready, due, here⟩).trans writes
      rw [hwrite]
      rfl
  | timedOut _ idle | waits _ idle =>
      rw [ownWrite?, if_neg]
      · rfl
      · rintro ⟨-, due, here⟩
        rw [idle due] at here
        cases here

theorem goOn_tally (race : Race) (passOver : Bool) (l : Load) (s : Store) :
    (s.goOn race passOver l).2.generation =
        s.generation + (s.ownWrite? race passOver l).toList.length ∧
      (s.goOn race passOver l).2.fetches = s.fetches ∧ begun (s.goOn race passOver l).1 = [] := by
  have hgeneration := poll_generation race passOver l s
  obtain ⟨generation, snapshot, -, hframe⟩ := poll_frame race passOver l s
  have hfetches : (s.poll race passOver l).2.fetches = s.fetches := by rw [hframe]
  unfold goOn
  rcases hpoll : s.poll race passOver l with ⟨_ | answer, t⟩ <;> rw [hpoll] at hgeneration hfetches <;>
    exact ⟨hgeneration, hfetches, rfl⟩

/-- What is drawn in a turn is drawn by a write or by a load that begins. -/
theorem turn_tally (s : Store) (t : Turn) :
    begun (s.turn t).1 = (if t.begins then [s.enter.1] else []) ∧
      (s.turn t).2.generation =
        s.generation + (t.set?.toList.length + (s.sourceWrite? t).toList.length +
          if t.begins then 1 else 0) ∧
      (s.turn t).2.fetches = s.fetches + if t.begins then 1 else 0 := by
  cases t with
  | set menu => exact ⟨rfl, rfl, rfl⟩
  | begin =>
      obtain ⟨hgeneration, hfetches, hbegun⟩ := goOn_tally .ticket s.enter.1.fetch.yields s.enter.1
        { s.enter.2 with pending := s.enter.2.pending ++ [s.enter.1] }
      refine ⟨congrArg (s.enter.1 :: ·) hbegun, hgeneration.trans ?_, hfetches⟩
      change s.generation + 1 + (s.sourceWrite? .begin).toList.length =
        s.generation + (0 + (s.sourceWrite? .begin).toList.length + 1)
      omega
  | resume ticket race =>
      simp only [turn, sourceWrite?]
      cases s.pending.find? (·.ticket == ticket) with
      | none => exact ⟨rfl, rfl, rfl⟩
      | some l =>
          obtain ⟨hgeneration, hfetches, hbegun⟩ := goOn_tally race false l s
          refine ⟨hbegun, hgeneration.trans ?_, hfetches⟩
          change _ = s.generation + (0 + (s.ownWrite? race false l).toList.length + 0)
          rw [Nat.zero_add, Nat.add_zero]
  | abort ticket =>
      refine ⟨?_, rfl, rfl⟩
      simp only [turn]
      split <;> rfl
  | take ticket =>
      have hsame : (s.turn (.take ticket)).2.generation = s.generation ∧
          (s.turn (.take ticket)).2.fetches = s.fetches := by
        simp only [turn, take?]
        split <;> exact ⟨rfl, rfl⟩
      exact ⟨rfl, hsame⟩
  | pass target =>
      have hsame : (s.turn (.pass target)).2.generation = s.generation ∧
          (s.turn (.pass target)).2.fetches = s.fetches := by
        simp only [turn, pass]
        split <;> exact ⟨rfl, rfl⟩
      exact ⟨rfl, hsame⟩

/-- A script gives one answer at a time, from the front. -/
theorem next_script (timeout : Nat) (fetches : List Fetch) :
    (Source.script fetches).next timeout =
      (fetches[0]?.getD Source.exhausted, .script (fetches.drop 1)) := by
  cases fetches <;> rfl

/-! ### Runs -/

theorem begun_append (moments later : List Moment) :
    begun (moments ++ later) = begun moments ++ begun later :=
  List.filterMap_append

theorem turns_tally (s : Store) (ts : List Turn) :
    (begun (s.turns ts).1).length = ts.countP Turn.begins ∧
      (s.turns ts).2.generation =
        s.generation + ((ts.filterMap Turn.set?).length + (s.sourceWrites ts).length +
          ts.countP Turn.begins) ∧
      (s.turns ts).2.fetches = s.fetches + ts.countP Turn.begins := by
  induction ts generalizing s with
  | nil => exact ⟨rfl, rfl, rfl⟩
  | cons t ts ih =>
      obtain ⟨hbegun, hgeneration, hfetches⟩ := turn_tally s t
      obtain ⟨hbegun', hgeneration', hfetches'⟩ := ih (s.turn t).2
      have hset : ((t :: ts).filterMap Turn.set?).length =
          t.set?.toList.length + (ts.filterMap Turn.set?).length := by
        cases hset : t.set? <;> simp [hset, Nat.add_comm]
      have hlength : (begun (s.turn t).1).length = if t.begins then 1 else 0 := by
        rw [hbegun]
        split <;> rfl
      rw [hset, List.countP_cons]
      simp only [turns, begun_append, sourceWrites, List.length_append]
      omega

/-- The loads of a run get the answers of the script one by one, and none twice. -/
theorem turns_script (h : s.source = .script fetches) (ts : List Turn) :
    (s.turns ts).2.source = .script (fetches.drop (begun (s.turns ts).1).length) ∧
      ∀ (i : Nat) (l : Load), (begun (s.turns ts).1)[i]? = some l →
        l.fetch = fetches[i]?.getD Source.exhausted := by
  induction ts generalizing s fetches with
  | nil =>
      refine ⟨h, ?_⟩
      intro i l hl
      cases hl
  | cons t ts ih =>
      simp only [turns, begun_append]
      by_cases hbegins : t = .begin
      · subst hbegins
        have hnext : s.source.next s.timeout = _ := h ▸ next_script s.timeout fetches
        have hsource : (s.turn .begin).2.source = .script (fetches.drop 1) := by
          rw [begin_source, hnext]
        obtain ⟨hend, hlater⟩ := ih hsource
        have hfirst : begun (s.turn .begin).1 = [s.enter.1] := (turn_tally s .begin).1
        rw [hfirst, List.singleton_append]
        refine ⟨?_, ?_⟩
        · rw [hend, List.drop_drop, List.length_cons, Nat.add_comm 1]
        · rintro (_ | i) l hl
          · cases hl
            exact congrArg Prod.fst hnext
          · rw [hlater i l hl, List.getElem?_drop, Nat.add_comm 1]
      · have hnone : begun (s.turn t).1 = [] := by
          rw [(turn_tally s t).1, if_neg]
          intro hbegin
          cases t with
          | begin => exact hbegins rfl
          | set | resume | abort | take | pass => cases hbegin
        obtain ⟨hend, hlater⟩ := ih ((turn_source s hbegins).trans h)
        rw [hnone, List.nil_append]
        exact ⟨hend, hlater⟩

theorem describe_script (h : s.source = .script fetches) :
    s.describe = "MenuStore \x7b source: " ++ Text.quoted "scripted" ++ ", timeout: " ++
      Text.spanText s.timeout ++ ", generation: " ++ toString s.generation ++ " \x7d" := by
  have hsource : s.source.describe = "scripted" := by
    rw [h]
    rfl
  unfold describe
  rw [hsource]

/-! ### Sessions -/

theorem Turn.isInner.neither {t : Turn} (h : t.isInner) : t.set? = none ∧ t.begins = false := by
  cases t with
  | set | begin | abort => exact absurd h id
  | resume | take | pass => exact ⟨rfl, rfl⟩

theorem turn?_tally (x : Session) (step : Step) :
    (step.turn? x).toList.filterMap Turn.set? = step.set?.toList ∧
      (step.turn? x).toList.countP Turn.begins = if step.begins then 1 else 0 := by
  cases step with
  | abort id =>
      simp only [Step.turn?]
      cases x.ticket? id <;> exact ⟨rfl, rfl⟩
  | set | load | start | join | wait | state | find | draw | hold | held => exact ⟨rfl, rfl⟩

/-- A step of a session writes or begins a load if it says so, and only then. -/
theorem step_tally {x : Session} (h : Ordered x.store) (step : Step) :
    ∃ ts, (x.store.turns ts).2 = (x.step step).2.store ∧
      ts.filterMap Turn.set? = step.set?.toList ∧
      ts.countP Turn.begins = if step.begins then 1 else 0 := by
  obtain ⟨us, hinner, hus⟩ := step_turns h step
  obtain ⟨hset, hbegins⟩ := turn?_tally x step
  have hnoSet : us.filterMap Turn.set? = [] :=
    List.filterMap_eq_nil_iff.mpr fun u hu => (hinner u hu).neither.1
  have hnoBegin : us.countP Turn.begins = 0 :=
    List.countP_eq_zero.mpr fun u hu => by simp [(hinner u hu).neither.2]
  refine ⟨(step.turn? x).toList ++ us, ?_, ?_, ?_⟩
  · rw [turns_append, hus]
  · rw [List.filterMap_append, hnoSet, List.append_nil, hset]
  · rw [List.countP_append, hnoBegin, Nat.add_zero, hbegins]

theorem after_tally {x : Session} (h : Ordered x.store) (steps : List Step) :
    ∃ ts, (x.store.turns ts).2 = (x.after steps).store ∧
      ts.filterMap Turn.set? = steps.filterMap Step.set? ∧
      ts.countP Turn.begins = steps.countP Step.begins := by
  induction steps generalizing x with
  | nil => exact ⟨[], rfl, rfl, rfl⟩
  | cons step steps ih =>
      obtain ⟨ts, hts, hsets, hbegins⟩ := step_tally h step
      obtain ⟨us, hus, hsets', hbegins'⟩ := ih (h.leads (step_leads h step))
      refine ⟨ts ++ us, ?_, ?_, ?_⟩
      · rw [turns_append, hts, hus]
        rfl
      · rw [List.filterMap_append, hsets, hsets']
        cases hset : step.set? <;> simp [hset]
      · rw [List.countP_append, hbegins, hbegins', List.countP_cons, Nat.add_comm]

/-- Tickets and fetches are accounted for exactly. -/
theorem tickets_and_fetches (fetches : List Fetch) (timeout : Nat) :
    (∀ ts,
      let s := fresh (.script fetches) timeout
      let t := (s.turns ts).2
      let loads := begun (s.turns ts).1
      let sets := (ts.filterMap Turn.set?).length + (s.sourceWrites ts).length
      loads.length = ts.countP Turn.begins ∧
      t.generation = sets + loads.length ∧
      t.describe = "MenuStore \x7b source: " ++ Text.quoted "scripted" ++ ", timeout: " ++
        Text.spanText timeout ++ ", generation: " ++ toString (sets + loads.length) ++ " \x7d" ∧
      t.fetches = loads.length ∧
      (∀ (i : Nat) (l : Load), loads[i]? = some l → l.fetch = fetches[i]?.getD Source.exhausted) ∧
      t.source = .script (fetches.drop loads.length)) ∧
    ∀ steps, ∃ ts,
      ((fresh (.script fetches) timeout).turns ts).2 =
        (Session.after ⟨.fresh (.script fetches) timeout, [], []⟩ steps).store ∧
      ts.filterMap Turn.set? = steps.filterMap Step.set? ∧
      ts.countP Turn.begins = steps.countP Step.begins := by
  constructor
  · intro ts s t loads sets
    obtain ⟨hlength, hgeneration, hfetches⟩ := turns_tally s ts
    have hdrawn : t.generation = sets + loads.length := by
      rw [hgeneration, ← hlength]
      exact Nat.zero_add _
    obtain ⟨hsource, hloads⟩ := turns_script (s := s) rfl ts
    have htimeout : t.timeout = timeout := (timely_turns (.script fetches) timeout ts).limit
    refine ⟨hlength, hdrawn, ?_, ?_, hloads, hsource⟩
    · rw [describe_script hsource, htimeout, hdrawn]
    · rw [hfetches, ← hlength]
      exact Nat.zero_add _
  · exact after_tally (x := ⟨.fresh (.script fetches) timeout, [], []⟩) (ordered_fresh _ _)

end ConsoleNav.Store
