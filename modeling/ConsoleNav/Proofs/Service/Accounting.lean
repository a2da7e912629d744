import ConsoleNav.Proofs.Service.Register
import Mathlib.Data.List.Forall2
import Mathlib.Data.List.Induction

/-!
Sessions with the service have histories: every demand is met in the step that makes it, and whatever a
session answers is accounted for by what has come about until then.
-/
namespace ConsoleNav.Service

open Store

section Drifting

variable {b c : Shared} (table : Route.Table) (filter : Route.FilterKind)

theorem happens_of_event {e : Event} (h : e.isInner b) :
    ∃ new, Served.Happens ⟨b, table, filter⟩ new ⟨(b.step e).2, table, filter⟩ ∧ demands new = [] ∧
      ∀ x ∈ (b.step e).2.store.finished, x ∈ b.store.finished ∨ .mark (.returned x.1 x.2) ∈ new := by
  have hmarks (undrawn : e.draws = false) :
      ∃ new, Served.Happens ⟨b, table, filter⟩ new ⟨(b.step e).2, table, filter⟩ ∧ demands new = [] ∧
        ∀ x ∈ (b.step e).2.store.finished,
          x ∈ b.store.finished ∨ .mark (.returned x.1 x.2) ∈ new := by
    refine ⟨_, .event undrawn h, ?_, ?_⟩
    · rw [demands, List.filterMap_map]
      exact List.filterMap_eq_nil_iff.mpr fun _ _ => rfl
    · intro x hx
      rcases Shared.finished_step b e x hx with hold | hreturned
      · exact .inl hold
      · exact .inr (List.mem_map_of_mem hreturned)
  cases e with
  | set menu => exact ⟨_, .wrote h, rfl, fun x hx => .inl hx⟩
  | begin | abort => exact absurd h id
  | answer | supersede | timeOut | commit | take | pass => exact hmarks rfl

theorem comes_of_drifts (h : Shared.Drifts b c) :
    ∃ new, Served.Comes ⟨b, table, filter⟩ new ⟨c, table, filter⟩ ∧ demands new = [] ∧
      ∀ x ∈ c.store.finished, x ∈ b.store.finished ∨ .mark (.returned x.1 x.2) ∈ new := by
  induction h with
  | refl b => exact ⟨[], .refl _, rfl, fun x hx => .inl hx⟩
  | event e inner later ih =>
    obtain ⟨new, hnew, hnone, hfinished⟩ := happens_of_event table filter inner
    obtain ⟨more, hmore, hnone', hfinished'⟩ := ih
    refine ⟨new ++ more, (Served.Comes.single hnew).trans hmore, ?_, fun x hx => ?_⟩
    · rw [demands, List.filterMap_append, ← demands, ← demands, hnone, hnone', List.append_nil]
    · rcases hfinished' x hx with hold | hreturned
      · rcases hfinished x hold with hold | hreturned
        · exact .inl hold
        · exact .inr (List.mem_append_left _ hreturned)
      · exact .inr (List.mem_append_right _ hreturned)

end Drifting

/-! ### What a session owes -/

def Step.demand? : Step → Option Demand
  | .request r | .start _ r => some (.request r)
  | .firstLoad | .startFirstLoad _ => some .firstLoad
  | .join _ | .wait _ | .describe => none

/-- The demand that a step makes in the background, under a name. -/
def Step.started? : Step → Option (String × Demand)
  | .start id r => some (id, .request r)
  | .startFirstLoad id => some (id, .firstLoad)
  | .request _ | .join _ | .wait _ | .firstLoad | .describe => none

/-- The steps of a session, each with the facts that have come about in it. -/
abbrev Account :=
  List (Step × List Fact)

def Account.facts (account : Account) : List Fact :=
  account.flatMap Prod.snd

/-- A demand made in the background, and the facts that have come about in the step that has made it. -/
abbrev Started :=
  Demand × List Fact

/-- What has been started under which names, last one first. -/
def Account.started (account : Account) : List (String × Started) :=
  account.reverse.filterMap fun x => x.1.started?.map fun (id, d) => (id, d, x.2)

/-- A demand that has left facts of its own has an outcome according to these and all facts: it has been
answered at once, or with the answer of the load that was begun for it. -/
def Outcome.IsOf (own all : List Fact) (d : Demand) : Outcome → Prop
  | .response given => ∃ r, d = .request r ∧
    (.answered r given ∈ own ∨
      ∃ ticket answer, .asked d ticket ∈ own ∧ .mark (.returned ticket answer) ∈ all ∧
        given = loadResponse answer)
  | .loaded => d = .firstLoad ∧
    ∃ ticket snapshot, .asked d ticket ∈ own ∧ .mark (.returned ticket (.ok snapshot)) ∈ all
  | .failed fault => d = .firstLoad ∧
    ∃ ticket, .asked d ticket ∈ own ∧ .mark (.returned ticket (.error fault)) ∈ all
  | .done | .description _ _ _ | .unknownId => False

/-- The outcome of a step is accounted for: after an account of the steps before, the facts of the step
itself come about. Only the answer of a load may be gone, which is given out once. -/
def Account.accountsFor (account : Account) (own : List Fact) : Step → Outcome → Prop
  | .request r, outcome => outcome.IsOf own (account.facts ++ own) (.request r)
  | .firstLoad, outcome => outcome.IsOf own (account.facts ++ own) .firstLoad
  | .join id, outcome =>
    match account.started.lookup id with
    | none => outcome = .unknownId
    | some (d, first) => outcome.IsOf first (account.facts ++ own) d ∨
      outcome = .unknownId ∧ ∃ ticket, .asked d ticket ∈ first
  | .start _ _, _ | .wait _, _ | .startFirstLoad _, _ | .describe, _ => True

theorem Outcome.IsOf.mono {own all : List Fact} {d : Demand} {outcome : Outcome}
    (h : outcome.IsOf own all d) (later : List Fact) : outcome.IsOf (own ++ later) all d := by
  cases outcome with
  | response given =>
    obtain ⟨r, hr, hanswered | ⟨ticket, answer, hasked, hrest⟩⟩ := h
    · exact ⟨r, hr, .inl (List.mem_append_left _ hanswered)⟩
    · exact ⟨r, hr, .inr ⟨ticket, answer, List.mem_append_left _ hasked, hrest⟩⟩
  | loaded =>
    obtain ⟨hd, ticket, snapshot, hasked, hreturned⟩ := h
    exact ⟨hd, ticket, snapshot, List.mem_append_left _ hasked, hreturned⟩
  | failed fault =>
    obtain ⟨hd, ticket, hasked, hreturned⟩ := h
    exact ⟨hd, ticket, List.mem_append_left _ hasked, hreturned⟩
  | done | description | unknownId => exact absurd h id

def Job.IsOf (own : List Fact) (d : Demand) : Job → Prop
  | .answered response => ∃ r, d = .request r ∧ .answered r response ∈ own
  | .request ticket => (∃ r, d = .request r) ∧ .asked d ticket ∈ own
  | .firstLoad ticket => d = .firstLoad ∧ .asked d ticket ∈ own

theorem Job.IsOf.mono {own : List Fact} {d : Demand} {job : Job} (h : job.IsOf own d)
    (later : List Fact) : job.IsOf (own ++ later) d := by
  cases job with
  | answered response =>
    obtain ⟨r, hr, hfact⟩ := h
    exact ⟨r, hr, List.mem_append_left _ hfact⟩
  | request ticket | firstLoad ticket => exact ⟨h.1, List.mem_append_left _ h.2⟩

/-- A job has been started. -/
def IsStarted (x : String × Job) (y : String × Started) : Prop :=
  x.1 = y.1 ∧ x.2.IsOf y.2.2 y.2.1

theorem lookup_started {jobs : List (String × Job)} {started : List (String × Started)}
    (h : List.Forall₂ IsStarted jobs started) (id : String) :
    (jobs.lookup id = none ∧ started.lookup id = none) ∨
      ∃ job d own, jobs.lookup id = some job ∧ started.lookup id = some (d, own) ∧
        job.IsOf own d := by
  induction h with
  | nil => exact .inl ⟨rfl, rfl⟩
  | @cons x y jobs started hxy _ ih =>
    obtain ⟨name, job⟩ := x
    obtain ⟨name', d, own⟩ := y
    obtain ⟨rfl, hjob⟩ : name = name' ∧ job.IsOf own d := hxy
    rw [List.lookup_cons, List.lookup_cons]
    split
    · exact .inr ⟨job, d, own, rfl, rfl, hjob⟩
    · exact ih

/-- What holds of a session that has started something and has seen some facts. -/
structure Tracked (started : List (String × Started)) (facts : List Fact) (s : Session) : Prop where
  ordered : Ordered s.app.store
  finished : ∀ x ∈ s.app.store.finished, .mark (.returned x.1 x.2) ∈ facts
  jobs : List.Forall₂ IsStarted s.jobs started

/-- One session passes into another one while some facts come about that meet some demands. -/
structure Passes (started : List (String × Started)) (facts : List Fact) (s : Session)
    (owed : List Demand) (new : List Fact) (t : Session) : Prop where
  comes : (Served.ofApp s.app).Comes new (Served.ofApp t.app)
  met : demands new = owed
  tracked : Tracked started (facts ++ new) t

variable {started : List (String × Started)} {facts : List Fact} {s : Session}

theorem Tracked.passes (h : Tracked started facts s) : Passes started facts s [] [] s where
  comes := .refl _
  met := rfl
  tracked := by rwa [List.append_nil]

theorem Passes.trans {t u : Session} {owed others : List Demand} {new more : List Fact}
    (hst : Passes started facts s owed new t)
    (htu : Passes started (facts ++ new) t others more u) :
    Passes started facts s (owed ++ others) (new ++ more) u where
  comes := hst.comes.trans htu.comes
  met := by rw [demands, List.filterMap_append, ← demands, ← demands, hst.met, htu.met]
  tracked := by
    rw [← List.append_assoc]
    exact htu.tracked

theorem Tracked.drift (h : Tracked started facts s) {t : Store} (hst : Store.Drifts s.app.store t) :
    ∃ new, Passes started facts s [] new (s.withStore t) := by
  obtain ⟨new, hcomes, hnone, hfinished⟩ :=
    comes_of_drifts s.app.table s.app.filter (Shared.drifts_of_turns h.ordered hst)
  refine ⟨new, hcomes, hnone, h.ordered.leads hst.leads, fun x hx => ?_, h.jobs⟩
  rcases hfinished x hx with hold | hreturned
  · exact List.mem_append_left _ (h.finished x hold)
  · exact List.mem_append_right _ hreturned

/-! ### What a session does in a step -/

theorem Tracked.await (h : Tracked started facts s) (ticket : Nat) :
    ∃ new, Passes started facts s [] new (s.await ticket).2 ∧
      ∀ answer, (s.await ticket).1 = some answer →
        .mark (.returned ticket answer) ∈ facts ++ new := by
  cases hanswer : (s.app.store.await ticket).1 with
  | none =>
    obtain ⟨new, hpasses⟩ := h.drift (await_drifts ticket h.ordered)
    refine ⟨new, hpasses, fun answer hother => ?_⟩
    cases hanswer.symm.trans hother
  | some answer =>
    obtain ⟨t, hbefore, hmem, hafter⟩ := await_finished h.ordered hanswer
    obtain ⟨new, hpasses⟩ := h.drift hbefore
    obtain ⟨more, hmore⟩ := hpasses.tracked.drift hafter
    refine ⟨new ++ more, hpasses.trans hmore, fun other hother => ?_⟩
    cases hanswer.symm.trans hother
    rw [← List.append_assoc]
    exact List.mem_append_left _ (hpasses.tracked.finished _ hmem)

theorem Tracked.finish (h : Tracked started facts s) {job : Job} {own : List Fact} {d : Demand}
    (hjob : job.IsOf own d) :
    ∃ new, Passes started facts s [] new (s.finish job).2 ∧
      ((s.finish job).1.IsOf own (facts ++ new) d ∨
        (s.finish job).1 = .unknownId ∧ ∃ ticket, .asked d ticket ∈ own) := by
  cases job with
  | answered response =>
    obtain ⟨r, hr, hfact⟩ := hjob
    exact ⟨[], h.passes, .inl ⟨r, hr, .inl hfact⟩⟩
  | request ticket =>
    obtain ⟨⟨r, hr⟩, hasked⟩ := hjob
    obtain ⟨new, hpasses, hreturned⟩ := h.await ticket
    refine ⟨new, hpasses, ?_⟩
    show (Session.responseOf (s.await ticket).1).IsOf _ _ _ ∨
      Session.responseOf (s.await ticket).1 = _ ∧ _
    cases hanswer : (s.await ticket).1 with
    | none => exact .inr ⟨rfl, ticket, hasked⟩
    | some answer =>
      exact .inl ⟨r, hr, .inr ⟨ticket, answer, hasked, hreturned answer hanswer, rfl⟩⟩
  | firstLoad ticket =>
    obtain ⟨hd, hasked⟩ := hjob
    obtain ⟨new, hpasses, hreturned⟩ := h.await ticket
    refine ⟨new, hpasses, ?_⟩
    show (Session.firstLoadOf (s.await ticket).1).IsOf _ _ _ ∨
      Session.firstLoadOf (s.await ticket).1 = _ ∧ _
    cases hanswer : (s.await ticket).1 with
    | none => exact .inr ⟨rfl, ticket, hasked⟩
    | some answer =>
      have hmark := hreturned answer hanswer
      cases answer with
      | ok snapshot => exact .inl ⟨hd, ticket, snapshot, hasked, hmark⟩
      | error fault => exact .inl ⟨hd, ticket, hasked, hmark⟩

/-- A load is begun, and goes on as far as it can at once. -/
theorem Tracked.begin (h : Tracked started facts s) {d : Demand}
    (hbegun : (Served.ofApp s.app).Happens [.asked d s.app.store.begin.1]
      ((Served.ofApp s.app).happen .begin)) :
    ∃ new, Passes started facts s [d] new (s.withStore s.app.store.begin.2) ∧
      .asked d s.app.store.begin.1 ∈ new := by
  have hdrifts := Shared.begin_drifts h.ordered
  rw [turn_begin h.ordered] at hdrifts
  obtain ⟨new, hcomes, hnone, hfinished⟩ := comes_of_drifts s.app.table s.app.filter hdrifts
  refine ⟨_, ⟨(Served.Comes.single hbegun).trans hcomes, ?_, ?_⟩,
    List.mem_append_left _ (List.mem_singleton_self _)⟩
  · exact congrArg (d :: ·) hnone
  · refine ⟨h.ordered.leads (begin_leads h.ordered), fun x hx => ?_, h.jobs⟩
    rcases hfinished x hx with hold | hreturned
    · exact List.mem_append_left _ (h.finished x hold)
    · exact List.mem_append_right _ (List.mem_append_right _ hreturned)

theorem finished_receive (app : App) {r : Request} (h : ¬ r.loadsMenu) :
    (app.receive r).2.store.finished = app.store.finished := by
  rcases receive_store app r with hsame | ⟨-, -, menu, -, hset⟩ | ⟨hload, -⟩
  · rw [hsame]
  · rw [hset, set_finished]
  · exact absurd hload h

theorem Tracked.receive (h : Tracked started facts s) (r : Request) :
    ∃ new, Passes started facts s [.request r] new { s with app := (s.app.receive r).2 } ∧
      (Session.jobOf (s.app.receive r).1).IsOf new (.request r) := by
  by_cases hload : r.loadsMenu
  · have hreceive : (Served.ofApp s.app).app.receive r = _ := receive_load hload
    obtain ⟨new, hpasses, hasked⟩ := h.begin (.asked hreceive)
    rw [receive_load hload]
    exact ⟨new, hpasses, ⟨r, rfl⟩, hasked⟩
  · obtain ⟨response, hresponse⟩ := receive_other s.app hload
    have hleads := receive_leads h.ordered r
    have hfinished := finished_receive s.app hload
    have hanswered (app : App) (hreceive : s.app.receive r = (.response response, app)) :
        (Served.ofApp s.app).Happens [.answered r response] (Served.ofApp app) :=
      .answered hreceive
    generalize s.app.receive r = result at hresponse hleads hfinished hanswered ⊢
    obtain ⟨reply, app⟩ := result
    cases hresponse
    refine ⟨[.answered r response], ⟨.single (hanswered app rfl), rfl, ?_⟩, ⟨r, rfl, ?_⟩⟩
    · refine ⟨h.ordered.leads hleads, fun x hx => ?_, h.jobs⟩
      exact List.mem_append_left _ (h.finished x (hfinished ▸ hx))
    · exact List.mem_singleton_self _

theorem Tracked.startLoad (h : Tracked started facts s) :
    ∃ new, Passes started facts s [.firstLoad] new s.startLoad.2 ∧
      (Job.firstLoad s.startLoad.1).IsOf new .firstLoad := by
  obtain ⟨new, hpasses, hasked⟩ := h.begin .firstLoad
  obtain ⟨more, hmore⟩ := hpasses.tracked.drift (settle_drifts hpasses.tracked.ordered)
  exact ⟨new ++ more, hpasses.trans hmore, rfl, List.mem_append_left _ hasked⟩

namespace Session

theorem request_answered (s : Session) (r : Request) : (s.step (.request r)).1 ≠ .unknownId := by
  by_cases hload : r.loadsMenu
  · obtain ⟨answer, hanswer⟩ := load_isSome s.app.store
    rw [step_load hload, hanswer]
    nofun
  · obtain ⟨response, hresponse⟩ := receive_other s.app hload
    rw [step_request, hresponse]
    nofun

theorem firstLoad_answered (s : Session) : (s.step .firstLoad).1 ≠ .unknownId := by
  have hopen : IsOpen s.app.store.start.1 s.app.store.start.2 :=
    IsOpen.settle (IsOpen.keep _ _ (.inr rfl))
  obtain ⟨answer, hanswer⟩ := await_isSome hopen
  show firstLoadOf (s.app.store.start.2.await s.app.store.start.1).1 ≠ .unknownId
  rw [hanswer]
  cases answer with
  | ok snapshot => nofun
  | error fault => nofun

end Session

/-! ### Whole sessions -/

/-- An account that accounts for a session: the demand of each step is met in it, and so is its outcome
accounted for. -/
inductive Accounted (start : Session) : Account → Prop
  | nil : Accounted start []
  | step {account : Account} {step : Step} {own : List Fact} (before : Accounted start account)
      (met : demands own = step.demand?.toList)
      (accounts : account.accountsFor own step ((start.after (account.map Prod.fst)).step step).1) :
      Accounted start (account ++ [(step, own)])

theorem Account.facts_concat (account : Account) (step : Step) (own : List Fact) :
    Account.facts (account ++ [(step, own)]) = account.facts ++ own := by
  simp [Account.facts]

theorem Account.started_concat (account : Account) (step : Step) (own : List Fact) :
    Account.started (account ++ [(step, own)]) =
      (step.started?.map fun (id, d) => (id, d, own)).toList ++ account.started := by
  rw [Account.started, List.reverse_concat, List.filterMap_cons]
  cases step.started? with
  | none => rfl
  | some _ => rfl

/-- Whatever a session does in a step, there are facts that account for it. -/
theorem Tracked.step {account : Account} (h : Tracked account.started account.facts s) (step : Step) :
    ∃ own, (Served.ofApp s.app).Comes own (Served.ofApp (s.step step).2.app) ∧
      demands own = step.demand?.toList ∧ account.accountsFor own step (s.step step).1 ∧
      Tracked (Account.started (account ++ [(step, own)])) (account.facts ++ own)
        (s.step step).2 := by
  simp only [Account.started_concat]
  cases step with
  | request r =>
    have hanswered := Session.request_answered s r
    obtain ⟨new, hpasses, hjob⟩ := h.receive r
    rw [Session.step_request] at hanswered ⊢
    generalize s.app.receive r = result at hanswered hpasses hjob ⊢
    obtain ⟨more, hmore, houtcome⟩ := hpasses.tracked.finish hjob
    have hall := hpasses.trans hmore
    refine ⟨new ++ more, hall.comes, hall.met, ?_, hall.tracked⟩
    show Outcome.IsOf _ _ _ _
    rw [← List.append_assoc]
    exact (houtcome.resolve_right fun hunknown => hanswered hunknown.1).mono more
  | start id r =>
    obtain ⟨new, hpasses, hjob⟩ := h.receive r
    rw [Session.step_start]
    generalize s.app.receive r = result at hpasses hjob ⊢
    obtain ⟨more, hmore⟩ := hpasses.tracked.drift (settle_drifts hpasses.tracked.ordered)
    have hall := hpasses.trans hmore
    refine ⟨new ++ more, hall.comes, hall.met, trivial, ?_⟩
    exact ⟨hall.tracked.ordered, hall.tracked.finished, .cons ⟨rfl, hjob.mono more⟩ hall.tracked.jobs⟩
  | join id =>
    simp only [Session.step, Account.accountsFor]
    rcases lookup_started h.jobs id with ⟨hnone, hunstarted⟩ | ⟨job, d, first, hsome, hstarted, hjob⟩
    · rw [hnone, hunstarted]
      exact ⟨[], h.passes.comes, rfl, rfl, h.passes.tracked⟩
    · rw [hsome, hstarted]
      obtain ⟨new, hpasses, houtcome⟩ := h.finish hjob
      exact ⟨new, hpasses.comes, hpasses.met, houtcome, hpasses.tracked⟩
  | wait millis =>
    obtain ⟨new, hpasses⟩ := h.drift (wait_drifts millis h.ordered).1
    exact ⟨new, hpasses.comes, hpasses.met, trivial, hpasses.tracked⟩
  | firstLoad =>
    have hanswered := Session.firstLoad_answered s
    obtain ⟨new, hpasses, hjob⟩ := h.startLoad
    obtain ⟨more, hmore, houtcome⟩ := hpasses.tracked.finish hjob
    have hall := hpasses.trans hmore
    refine ⟨new ++ more, hall.comes, hall.met, ?_, hall.tracked⟩
    show Outcome.IsOf _ _ _ _
    rw [← List.append_assoc]
    exact (houtcome.resolve_right fun hunknown => hanswered hunknown.1).mono more
  | startFirstLoad id =>
    obtain ⟨new, hpasses, hjob⟩ := h.startLoad
    refine ⟨new, hpasses.comes, hpasses.met, trivial, ?_⟩
    exact ⟨hpasses.tracked.ordered, hpasses.tracked.finished,
      .cons ⟨rfl, hjob⟩ hpasses.tracked.jobs⟩
  | describe => exact ⟨[], h.passes.comes, rfl, trivial, h.passes.tracked⟩

theorem accounted {start : Session} (h : Tracked [] [] start) (steps : List Step) :
    ∃ account : Account, account.map Prod.fst = steps ∧
      (Served.ofApp start.app).Comes account.facts (Served.ofApp (start.after steps).app) ∧
      Accounted start account ∧ Tracked account.started account.facts (start.after steps) := by
  induction steps using List.reverseRecOn with
  | nil => exact ⟨[], rfl, .refl _, .nil, h⟩
  | append_singleton steps step ih =>
    obtain ⟨account, rfl, hcomes, haccounted, htracked⟩ := ih
    obtain ⟨own, hown, hmet, haccounts, hlast⟩ := htracked.step step
    have hafter : start.after (account.map Prod.fst ++ [step]) =
        ((start.after (account.map Prod.fst)).step step).2 := List.foldl_concat _ _ _ _
    refine ⟨account ++ [(step, own)], by rw [List.map_append]; rfl, ?_, ?_, ?_⟩
    · rw [hafter, Account.facts_concat]
      exact hcomes.trans hown
    · exact haccounted.step hmet haccounts
    · rw [hafter, Account.facts_concat]
      exact hlast

end ConsoleNav.Service
