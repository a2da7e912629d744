import ConsoleNav.Proofs.Menu.Validation
import ConsoleNav.Proofs.Store.Commit
import Mathlib.Data.List.Induction

/-!
Where the current menu comes from. Loads commit only menus of the right shape, while writes commit
whatever they are given, so that a menu of another shape is the one that the last commit wrote.
-/
namespace ConsoleNav.Store.Shared

/-- The events of a run in which something is committed. -/
def committing (b : Shared) : List Event → List Event
  | [] => []
  | e :: es =>
    if (commits (b.step e).1).isEmpty then (b.step e).2.committing es
    else e :: (b.step e).2.committing es

theorem committing_append (b : Shared) (es fs : List Event) :
    b.committing (es ++ fs) = b.committing es ++ (b.run es).2.committing fs := by
  induction es generalizing b with
  | nil => rfl
  | cons e es ih =>
    simp only [List.cons_append, committing, run, ih]
    split
    · rfl
    · rfl

theorem committing_sublist (b : Shared) (es : List Event) : (b.committing es).Sublist es := by
  induction es generalizing b with
  | nil => exact List.Sublist.refl _
  | cons e es ih =>
    rw [committing]
    split
    · exact (ih _).cons e
    · exact (ih _).cons_cons e

/-- Each of these events makes one commit. -/
theorem length_committing (b : Shared) (es : List Event) :
    (b.committing es).length = (commits (b.run es).1).length := by
  induction es generalizing b with
  | nil => rfl
  | cons e es ih =>
    have hrun : commits (b.run (e :: es)).1 =
        commits (b.step e).1 ++ commits ((b.step e).2.run es).1 := List.filterMap_append
    rw [hrun, committing, List.length_append, ← ih]
    rcases commits_step b e with ⟨hnone, -⟩ | hone
    · simp [hnone]
    · simp [hone, Nat.add_comm]

/-- Which last commit leaves a menu in the store. -/
inductive Provenance : Option Event → List Menu.Entry → Prop
  | initial : Provenance none []
  | set (menu : List Menu.Entry) : Provenance (some (.set menu)) menu
  | load (ticket : Nat) {menu : List Menu.Entry} (valid : Menu.isValid menu) :
      Provenance (some (.commit ticket)) menu

variable {last : Option Event} {menu : List Menu.Entry}

theorem Provenance.last_eq_set (h : Provenance last menu) (hinvalid : ¬ Menu.isValid menu) :
    last = some (.set menu) := by
  cases h with
  | initial => exact absurd rfl hinvalid
  | set => rfl
  | load ticket valid => exact absurd valid hinvalid

theorem Provenance.isValid (h : Provenance last menu) (hlast : ∀ other, last ≠ some (.set other)) :
    Menu.isValid menu := by
  by_contra hinvalid
  exact hlast menu (h.last_eq_set hinvalid)

/-- A load commits what it has fetched, and it has fetched only what is valid. -/
theorem Provenance.step {b : Shared} (h : Provenance last b.store.snapshot.menu)
    (hfetched : ∀ x ∈ b.fetched, Menu.isValid x.2) (e : Event) :
    Provenance ((b.committing [e]).getLast?.or last) (b.step e).2.store.snapshot.menu := by
  rcases step_cases b e with
    ⟨hnone, hsame⟩ | ⟨menu, rfl, -, hend⟩ | ⟨l, menu, rfl, hl, hmarks, -, hend⟩
  · have hidle : b.committing [e] = [] := by simp [committing, hnone]
    rw [hidle, hsame]
    exact h
  · exact .set menu
  · have hcommit : b.committing [.commit l.ticket] = [.commit l.ticket] := by
      simp [committing, hmarks, commits, Mark.commit?]
    rw [hcommit, hend]
    exact .load l.ticket (hfetched _ hl)

theorem provenance_run (source : Source) (timeout : Nat) (events : List Event) :
    Provenance ((fresh source timeout).committing events).getLast?
      ((fresh source timeout).run events).2.store.snapshot.menu := by
  induction events using List.reverseRecOn with
  | nil => exact .initial
  | append_singleton events e ih =>
    have hfetched : ∀ x ∈ ((fresh source timeout).run events).2.fetched, Menu.isValid x.2 := by
      intro x hx
      exact ((fetched_run _ events x hx).resolve_left List.not_mem_nil).2
    rw [committing_append, run_append, List.getLast?_append]
    exact ih.step hfetched e

/-- Only menus of the right shape come from a source. -/
theorem loaded_isValid (source : Source) (timeout : Nat) :
    (∀ steps, ∀ x ∈ Session.run ⟨.fresh source timeout, [], []⟩ steps,
      Reaches (Event.setsOnly fun menu => .set menu ∈ steps ∨ menu ∈ source.writes)
        (fresh source timeout) ⟨x.2.store, []⟩) ∧
    ∀ events,
      let b := ((fresh source timeout).run events).2
      let menu := b.store.snapshot.menu
      let last := ((fresh source timeout).committing events).getLast?
      (last = none ↔ commits ((fresh source timeout).run events).1 = []) ∧
      ((∀ other, .set other ∉ events) → Menu.isValid menu) ∧
      (¬ Menu.isValid menu → last = some (.set menu)) ∧
      ∀ ticket, last = some (.commit ticket) →
        Menu.isValid menu ∧ ∀ id, (b.store.find? id).isSome ↔ (Menu.ids menu).count id = 1 := by
  refine ⟨session_reaches source timeout, fun events => ?_⟩
  intro b menu last
  have h : Provenance last menu := provenance_run source timeout events
  refine ⟨?_, ?_, h.last_eq_set, ?_⟩
  · rw [List.getLast?_eq_none_iff, ← List.length_eq_zero_iff, length_committing,
      List.length_eq_zero_iff]
  · intro hnone
    refine h.isValid fun other hother => hnone other ?_
    exact (committing_sublist _ events).subset (List.mem_of_getLast? hother)
  · intro ticket hlast
    have hvalid : Menu.isValid menu := h.isValid (by simp [hlast])
    exact ⟨hvalid, Menu.isSome_find?_iff_count hvalid⟩

end ConsoleNav.Store.Shared
