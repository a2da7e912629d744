import ConsoleNav.Proofs.Menu.RoundTrip
import ConsoleNav.Proofs.Service.History
import Mathlib.Logic.Function.Iterate

/-!
The service is a register for its menu: whoever asks for the menu gets the one that was made the current
one last, however the loads at work and the requests come between one another. What a load commits is
what the source has answered to its fetch.
-/
namespace ConsoleNav

namespace Store.Source

/-- A source after some fetches. -/
def rest (timeout : Nat) (source : Source) (n : Nat) : Source :=
  (fun source => (source.next timeout).2)^[n] source

/-- The fetch that a source makes after `n` other ones. -/
def fetch (timeout : Nat) (source : Source) (n : Nat) : Fetch :=
  ((source.rest timeout n).next timeout).1

end Store.Source

namespace Service

open Store Json

theorem commits_append (facts new : List Fact) :
    commits (facts ++ new) = commits facts ++ commits new :=
  List.filterMap_append

theorem commits_marks (marks : List Mark) :
    commits (marks.map .mark) = (Shared.commits marks).map (·.2.menu) := by
  induction marks with
  | nil => rfl
  | cons m marks ih =>
    cases m with
    | drew | offered | aborted => exact ih
    | returned ticket answer =>
      cases answer with
      | error fault => exact ih
      | ok snapshot => exact congrArg (snapshot.menu :: ·) ih

theorem mark?_marks (marks : List Mark) : (marks.map Fact.mark).filterMap Fact.mark? = marks := by
  rw [List.filterMap_map]
  exact List.filterMap_some

theorem commits_replaced {r : Request} {menu : List Menu.Entry} (asked : r.setsMenu)
    (body : r.menu? = .ok menu) : commits [.answered r (.empty 204)] = [menu] := by
  have hcommit : (Fact.answered r (.empty 204)).commit? = some menu := by
    rw [Fact.commit?, if_pos ⟨asked, rfl⟩, body]
    rfl
  simp [commits, hcommit]

theorem commits_answered {r : Request} {response : Response}
    (h : ¬ (r.setsMenu ∧ response.code = 204)) : commits [.answered r response] = [] := by
  have hcommit : (Fact.answered r response).commit? = none := by rw [Fact.commit?, if_neg h]
  simp [commits, hcommit]

theorem commits_asked (d : Demand) (ticket : Nat) : commits [.asked d ticket] = [] := rfl

theorem commits_wrote (menu : List Menu.Entry) : commits [.wrote menu] = [menu] := rfl

theorem BodyFault.code_ne (fault : BodyFault) : fault.response.code ≠ 204 := by
  intro hcode
  have hmem := fault.code_mem
  rw [show fault.code = 204 from hcode] at hmem
  exact absurd hmem (by decide)

theorem tickets_append (facts new : List Fact) : tickets (facts ++ new) = tickets facts ++ tickets new :=
  List.filterMap_append

theorem tickets_marks (marks : List Mark) : tickets (marks.map .mark) = [] := by
  rw [tickets, List.filterMap_map]
  exact List.filterMap_eq_nil_iff.mpr fun _ _ => rfl

/-- The load with a ticket has asked the source for a fetch. Fetches go to loads in the order in which
these have begun. -/
def Asked (source : Source) (timeout : Nat) (facts : List Fact) (ticket : Nat) (fetch : Fetch) : Prop :=
  ∃ n, (tickets facts)[n]? = some ticket ∧ source.fetch timeout n = fetch

/-- What a fact says about those before it. -/
def Fact.IsRight (source : Source) (timeout : Nat) (before : List Fact) : Fact → Prop
  | .answered r response =>
    (r.readsMenu → response.code = 200 ∧
      Denotes response.body ((commits before).getLast?.getD [])) ∧
    (r.setsMenu →
      (response.code = 204 ∧ ∃ menu, r.menu? = .ok menu) ∨
      (response.code ∈ [400, 413, 415, 422] ∧ ∃ fault, r.menu? = .error fault)) ∧
    ¬ r.loadsMenu
  | .asked d _ => ∀ r, d = .request r → r.loadsMenu
  | .wrote menu => ∃ ticket fetch, Asked source timeout before ticket fetch ∧ fetch.writes = some menu
  | .mark (.returned ticket (.ok snapshot)) =>
    (∃ fetch, Asked source timeout before ticket fetch ∧ fetch.outcome = some (.ok snapshot.menu)) ∧
      Menu.isValid snapshot.menu ∧ (loadResponse (.ok snapshot)).code = 200 ∧
      Denotes (loadResponse (.ok snapshot)).body snapshot.menu
  | .mark (.returned ticket (.error fault)) =>
    ticket ∈ tickets before ∧ (loadResponse (.error fault)).code ∈ [409, 422, 502, 504]
  | .mark _ => True

variable {source : Source} {timeout : Nat} {facts new : List Fact}

section Loads

theorem Asked.mono {ticket : Nat} {fetch : Fetch} (h : Asked source timeout facts ticket fetch)
    (new : List Fact) : Asked source timeout (facts ++ new) ticket fetch := by
  obtain ⟨n, hn, hfetch⟩ := h
  refine ⟨n, ?_, hfetch⟩
  rw [tickets_append, List.getElem?_append_left (List.getElem?_eq_some_iff.mp hn).1]
  exact hn

theorem Asked.mem {ticket : Nat} {fetch : Fetch} (h : Asked source timeout facts ticket fetch) :
    ticket ∈ tickets facts := by
  obtain ⟨n, hn, -⟩ := h
  exact List.mem_of_getElem? hn

/-- The loads of a shared store have the fetches of a source, in the order that the facts tell. -/
structure Supplied (source : Source) (timeout : Nat) (facts : List Fact) (b : Shared) : Prop where
  origin : b.store.source = source.rest timeout (tickets facts).length
  limit : b.store.timeout = timeout
  pending : ∀ l ∈ b.store.pending, Asked source timeout facts l.ticket l.fetch
  fetched : ∀ x ∈ b.fetched, Asked source timeout facts x.1.ticket x.1.fetch ∧
    x.1.fetch.outcome = some (.ok x.2) ∧ Menu.isValid x.2

variable {b : Shared}

theorem Supplied.mem_tickets (h : Supplied source timeout facts b) :
    ∀ ticket ∈ b.tickets, ticket ∈ tickets facts := by
  intro ticket hticket
  rcases List.mem_append.mp hticket with hticket | hticket
  · obtain ⟨l, hl, rfl⟩ := List.mem_map.mp hticket
    exact (h.pending l hl).mem
  · obtain ⟨x, hx, rfl⟩ := List.mem_map.mp hticket
    exact (h.fetched x hx).1.mem

theorem Supplied.idle (h : Supplied source timeout facts b) (hnone : tickets new = []) :
    Supplied source timeout (facts ++ new) b where
  origin := by rw [tickets_append, hnone, List.append_nil, h.origin]
  limit := h.limit
  pending l hl := (h.pending l hl).mono new
  fetched x hx := ⟨(h.fetched x hx).1.mono new, (h.fetched x hx).2⟩

/-- The next load gets the next fetch. -/
theorem Supplied.begin (h : Supplied source timeout facts b)
    (hone : tickets new = [b.store.generation + 1]) :
    Supplied source timeout (facts ++ new) (b.step .begin).2 where
  origin := by
    rw [tickets_append, hone, List.length_append, List.length_singleton, Source.rest,
      Function.iterate_succ_apply', ← Source.rest, ← h.origin]
    show (b.store.source.next b.store.timeout).2 = _
    rw [h.limit]
  limit := h.limit
  pending l hl := by
    rcases Shared.pending_step b .begin l hl with hold | ⟨-, rfl⟩
    · exact (h.pending l hold).mono new
    · refine ⟨(tickets facts).length, ?_, ?_⟩
      · rw [tickets_append, hone]
        exact List.getElem?_concat_length
      · rw [Source.fetch, ← h.origin, ← h.limit]
        rfl
  fetched x hx := ⟨(h.fetched x hx).1.mono new, (h.fetched x hx).2⟩

theorem Supplied.step (h : Supplied source timeout facts b) {e : Event} (he : e ≠ .begin)
    (hgiven : ∀ l ∈ b.store.pending, ∀ outcome, e = .answer l.ticket outcome →
      l.fetch.outcome = some outcome) :
    Supplied source timeout facts (b.step e).2 where
  origin := (Shared.source_step b he).1.trans h.origin
  limit := (Shared.source_step b he).2.trans h.limit
  pending l hl := by
    rcases Shared.pending_step b e l hl with hold | ⟨hbegin, -⟩
    · exact h.pending l hold
    · exact absurd hbegin he
  fetched x hx := by
    rcases Shared.fetched_step b e x hx with hold | ⟨hpending, hanswer, hvalid⟩
    · exact h.fetched x hold
    · exact ⟨h.pending _ hpending, hgiven _ hpending _ hanswer, hvalid⟩

end Loads

/-- What the history of a service says about it. -/
structure Traced (source : Source) (timeout : Nat) (facts : List Fact) (v : Served) : Prop where
  current : v.shared.store.snapshot.menu = (commits facts).getLast?.getD []
  right : ∀ before fact after, facts = before ++ fact :: after → fact.IsRight source timeout before
  recorded : ∃ marks, Shared.Recorded marks v.shared ∧
    (facts.filterMap Fact.mark?).Sublist marks ∧ (tickets facts).Sublist (Shared.drawn marks)
  supplied : Supplied source timeout facts v.shared

variable {v w : Served}

theorem Traced.current_step (h : Traced source timeout facts v) (hw : v.Happens new w) :
    w.shared.store.snapshot.menu = (commits (facts ++ new)).getLast?.getD [] := by
  rw [commits_append]
  cases hw.happened with
  | @replaced r menu asked body =>
    rw [commits_replaced asked body, List.getLast?_concat]
    rfl
  | refused asked body =>
    rw [commits_answered fun hset => BodyFault.code_ne _ hset.2, List.append_nil]
    exact h.current
  | answered table notSet =>
    rw [commits_answered fun hset => notSet hset.1, List.append_nil]
    exact h.current
  | begun =>
    rw [commits_asked, List.append_nil]
    exact h.current
  | wrote inner =>
    rw [commits_wrote, List.getLast?_concat]
    rfl
  | @event e undrawn inner =>
    rw [commits_marks]
    rcases Shared.commits_step v.shared e with ⟨hnone, hsame⟩ | hone
    · rw [hnone, List.map_nil, List.append_nil, ← h.current]
      exact congrArg Snapshot.menu hsame
    · rw [hone, List.map_singleton, List.getLast?_concat]
      rfl

theorem Traced.recorded_idle (h : Traced source timeout facts v)
    (hmarks : new.filterMap Fact.mark? = []) (htickets : tickets new = []) :
    ∃ marks, Shared.Recorded marks v.shared ∧
      ((facts ++ new).filterMap Fact.mark?).Sublist marks ∧
      (tickets (facts ++ new)).Sublist (Shared.drawn marks) := by
  rw [List.filterMap_append, hmarks, tickets_append, htickets, List.append_nil, List.append_nil]
  exact h.recorded

theorem Traced.recorded_happen (h : Traced source timeout facts v) (e : Event)
    (hmarks : (new.filterMap Fact.mark?).Sublist (v.shared.step e).1)
    (htickets : (tickets new).Sublist (Shared.drawn (v.shared.step e).1)) :
    ∃ marks, Shared.Recorded marks (v.happen e).shared ∧
      ((facts ++ new).filterMap Fact.mark?).Sublist marks ∧
      (tickets (facts ++ new)).Sublist (Shared.drawn marks) := by
  obtain ⟨marks, hrecorded, hold, hasked⟩ := h.recorded
  refine ⟨marks ++ (v.shared.step e).1, hrecorded.step e, ?_, ?_⟩
  · rw [List.filterMap_append]
    exact hold.append hmarks
  · rw [tickets_append, Shared.drawn, List.filterMap_append]
    exact hasked.append htickets

theorem Traced.recorded_step (h : Traced source timeout facts v) (hw : v.Happens new w) :
    ∃ marks, Shared.Recorded marks w.shared ∧
      ((facts ++ new).filterMap Fact.mark?).Sublist marks ∧
      (tickets (facts ++ new)).Sublist (Shared.drawn marks) := by
  cases hw.happened with
  | replaced | wrote => exact h.recorded_happen _ (List.nil_sublist _) (List.nil_sublist _)
  | refused | answered => exact h.recorded_idle rfl rfl
  | begun =>
    refine h.recorded_happen .begin (List.nil_sublist _) ?_
    rw [Shared.drawn_step]
    exact List.Sublist.refl _
  | @event e undrawn inner =>
    refine h.recorded_happen e ?_ ?_
    · rw [mark?_marks]
    · rw [tickets_marks]
      exact List.nil_sublist _

/-- A source that answers answers for the one load that has the ticket. -/
theorem Traced.given (h : Traced source timeout facts v) {e : Event} (inner : e.isInner v.shared) :
    ∀ l ∈ v.shared.store.pending, ∀ outcome, e = .answer l.ticket outcome →
      l.fetch.outcome = some outcome := by
  rintro l hl outcome rfl
  obtain ⟨other, hother, hticket, hgiven⟩ := inner
  obtain ⟨marks, hrecorded, -, -⟩ := h.recorded
  have hdistinct : (v.shared.store.pending.map Load.ticket).Nodup :=
    (List.nodup_append'.mp (List.nodup_append'.mp hrecorded.nodup).1).1
  rw [← List.inj_on_of_nodup_map hdistinct hother hl hticket]
  exact hgiven

theorem Traced.supplied_step (h : Traced source timeout facts v) (hw : v.Happens new w) :
    Supplied source timeout (facts ++ new) w.shared := by
  cases hw.happened with
  | replaced | wrote => exact (h.supplied.idle rfl).step nofun nofun
  | refused | answered => exact h.supplied.idle rfl
  | begun => exact h.supplied.begin rfl
  | @event e undrawn inner =>
    refine (h.supplied.idle (tickets_marks _)).step ?_ (h.given inner)
    rintro rfl
    cases undrawn

theorem isRight_answered {r : Request} {response : Response} (notSet : ¬ r.setsMenu)
    (notLoad : ¬ r.loadsMenu)
    (read : r.readsMenu → response = .value ((commits facts).getLast?.getD [])) :
    (Fact.answered r response).IsRight source timeout facts := by
  refine ⟨fun hread => ?_, fun hset => absurd hset notSet, notLoad⟩
  rw [read hread]
  exact ⟨rfl, Menu.denotes_menu _⟩

theorem isRight_set {r : Request} (asked : r.setsMenu) {response : Response}
    (h : (response.code = 204 ∧ ∃ menu, r.menu? = .ok menu) ∨
      (response.code ∈ [400, 413, 415, 422] ∧ ∃ fault, r.menu? = .error fault)) :
    (Fact.answered r response).IsRight source timeout facts := by
  refine ⟨fun hread => ?_, fun _ => h, fun hload => ?_⟩
  · exact absurd (hread.1.symm.trans asked.1) (by decide)
  · exact absurd asked (Request.not_setsMenu_of_loadsMenu hload)

theorem Traced.isRight_mark (h : Traced source timeout facts v) {e : Event} (undrawn : e.draws = false)
    {m : Mark} (hm : m ∈ (v.shared.step e).1) (earlier : List Fact) :
    (Fact.mark m).IsRight source timeout (facts ++ earlier) := by
  cases m with
  | drew | offered | aborted => trivial
  | returned ticket answer =>
    obtain ⟨hticket, hfetched⟩ := Shared.returned_step undrawn hm
    cases answer with
    | error fault =>
      refine ⟨?_, faultCode_mem fault⟩
      rw [tickets_append]
      exact List.mem_append_left _ (h.supplied.mem_tickets ticket hticket)
    | ok snapshot =>
      obtain ⟨l, hl, rfl⟩ := hfetched snapshot rfl
      obtain ⟨hasked, hgiven, hvalid⟩ := h.supplied.fetched _ hl
      exact ⟨⟨l.fetch, hasked.mono earlier, hgiven⟩, hvalid, rfl, Menu.denotes_menu _⟩

/-- Each of the facts that come about is right. -/
theorem Traced.right_new (h : Traced source timeout facts v) (hw : v.Happens new w)
    {earlier later : List Fact} {fact : Fact} (hnew : new = earlier ++ fact :: later) :
    fact.IsRight source timeout (facts ++ earlier) := by
  have hone {other : Fact} (hother : other.IsRight source timeout facts)
      (heq : [other] = earlier ++ fact :: later) :
      fact.IsRight source timeout (facts ++ earlier) := by
    cases earlier with
    | nil =>
      cases heq
      rwa [List.append_nil]
    | cons => simp at heq
  cases hw.happened with
  | replaced asked body => exact hone (isRight_set asked (.inl ⟨rfl, _, body⟩)) hnew
  | @refused r fault asked body =>
    exact hone (isRight_set asked (.inr ⟨fault.code_mem, _, body⟩)) hnew
  | answered table notSet notLoad read =>
    rw [h.current] at read
    exact hone (isRight_answered notSet notLoad read) hnew
  | @begun d loads =>
    have hother : (Fact.asked d (v.shared.store.generation + 1)).IsRight source timeout facts := loads
    exact hone hother hnew
  | @wrote menu inner =>
    obtain ⟨l, hl, hmenu⟩ := inner
    have hother : (Fact.wrote menu).IsRight source timeout facts :=
      ⟨l.ticket, l.fetch, h.supplied.pending l hl, hmenu⟩
    exact hone hother hnew
  | @event e undrawn inner =>
    have hmem : fact ∈ (v.shared.step e).1.map Fact.mark := by
      rw [hnew]
      exact List.mem_append_right _ List.mem_cons_self
    obtain ⟨m, hm, rfl⟩ := List.mem_map.mp hmem
    exact h.isRight_mark undrawn hm earlier

theorem Traced.right_step (h : Traced source timeout facts v) (hw : v.Happens new w) :
    ∀ before fact after, facts ++ new = before ++ fact :: after →
      fact.IsRight source timeout before := by
  intro before fact after hsplit
  rcases List.append_eq_append_iff.mp hsplit with ⟨earlier, rfl, hnew⟩ | ⟨later, hold, hnew⟩
  · exact h.right_new hw hnew
  · cases later with
    | nil =>
      rw [List.append_nil] at hold
      subst hold
      have hright : fact.IsRight source timeout (facts ++ []) := h.right_new hw hnew.symm
      rwa [List.append_nil] at hright
    | cons first later =>
      cases hnew
      exact h.right before fact later hold

theorem Traced.step (h : Traced source timeout facts v) (hw : v.Happens new w) :
    Traced source timeout (facts ++ new) w where
  current := h.current_step hw
  right := h.right_step hw
  recorded := h.recorded_step hw
  supplied := h.supplied_step hw

end Service

end ConsoleNav
