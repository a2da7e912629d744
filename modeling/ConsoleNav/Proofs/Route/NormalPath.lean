import ConsoleNav.Proofs.Route.Browsing
import ConsoleNav.Proofs.Text.Stripping

/-!
The normal form of paths. Slashes at the ends of a path, its query and its fragment do not count, and what
is left of it is in its normal form. Slashes that follow each other count only for the path that an answer
reports.
-/
namespace ConsoleNav.Route

/-- A path is `core` but for slashes at its ends, a query and a fragment. -/
def IsDressed (core : List Char) (path : String) : Prop :=
  ∃ before after rest, path.toList = before ++ core ++ after ++ rest ∧ (∀ c ∈ before, c = '/') ∧
    (∀ c ∈ after, c = '/') ∧ (∀ c ∈ core, c ≠ '?' ∧ c ≠ '#') ∧ ∀ c ∈ rest.head?, c = '?' ∨ c = '#'

/-- A path without its query and fragment. -/
def plainPart (path : String) : List Char :=
  path.toList.takeWhile fun c => c != '?' && c != '#'

variable {core : List Char} {path other : String}

theorem exists_innerPath (path : String) :
    ∃ before after, plainPart path = before ++ innerPath path ++ after ∧ (∀ c ∈ before, c = '/') ∧
      ∀ c ∈ after, c = '/' := by
  obtain ⟨before, after, hsplit, hbefore, hafter⟩ := Text.exists_stripBoth (· == '/') (plainPart path)
  exact ⟨before, after, hsplit, by simpa using hbefore, by simpa using hafter⟩

theorem mem_innerPath {c : Char} (hc : c ∈ innerPath path) : c ≠ '?' ∧ c ≠ '#' := by
  obtain ⟨before, after, hsplit, -, -⟩ := exists_innerPath path
  have hmem : c ∈ plainPart path := by
    rw [hsplit]
    exact List.mem_append_left _ (List.mem_append_right _ hc)
  simpa using List.mem_takeWhile_imp hmem

theorem IsDressed.innerPath_eq (h : IsDressed core path) :
    innerPath path = Text.stripBoth (· == '/') core := by
  obtain ⟨before, after, rest, hpath, hbefore, hafter, hcore, hrest⟩ := h
  have hkept : ∀ c ∈ before ++ core ++ after, (c != '?' && c != '#') = true := by
    have hslash : ∀ c : Char, c = '/' → (c != '?' && c != '#') = true := by
      rintro c rfl
      rfl
    intro c hc
    rw [List.mem_append, List.mem_append] at hc
    rcases hc with (hc | hc) | hc
    · exact hslash c (hbefore c hc)
    · simpa using hcore c hc
    · exact hslash c (hafter c hc)
  have hends : ∀ c ∈ rest.head?, (c != '?' && c != '#') = false := by
    intro c hc
    rcases hrest c hc with rfl | rfl <;> rfl
  have hplain : plainPart path = before ++ core ++ after := by
    rw [plainPart, hpath, Text.takeWhile_append_of_head hends, List.takeWhile_eq_self_iff.mpr hkept]
  change Text.stripBoth (· == '/') (plainPart path) = _
  rw [hplain]
  exact Text.stripBoth_append _ (by simpa using hbefore) (by simpa using hafter)

theorem isDressed_innerPath (path : String) : IsDressed (innerPath path) path := by
  obtain ⟨before, after, hsplit, hbefore, hafter⟩ := exists_innerPath path
  refine ⟨before, after, path.toList.dropWhile fun c => c != '?' && c != '#', ?_, hbefore, hafter,
    fun c => mem_innerPath, fun c hc => ?_⟩
  · rw [← hsplit, plainPart, List.takeWhile_append_dropWhile]
  · have hends := List.head?_dropWhile_not (fun c => c != '?' && c != '#') path.toList
    rw [Option.mem_def.mp hc] at hends
    simpa [imp_iff_not_or] using hends

theorem isDressed_normalizePath (path : String) : IsDressed (innerPath path) (normalizePath path) := by
  refine ⟨['/'], [], [], ?_, by simp, by simp, fun c => mem_innerPath, by simp⟩
  simp [normalizePath]

theorem innerPath_normalizePath (path : String) : innerPath (normalizePath path) = innerPath path := by
  rw [(isDressed_normalizePath path).innerPath_eq]
  exact Text.stripBoth_stripBoth _ (plainPart path)

theorem normalizePath_eq_iff :
    normalizePath path = normalizePath other ↔ innerPath path = innerPath other := by
  rw [normalizePath, normalizePath, String.ofList_inj, List.cons.injEq]
  exact and_iff_right rfl

/-- Paths have one normal form if and only if they differ in slashes at their ends, queries and fragments
only. -/
theorem normalizePath_eq_iff_dressed :
    normalizePath path = normalizePath other ↔ ∃ core, IsDressed core path ∧ IsDressed core other := by
  rw [normalizePath_eq_iff]
  constructor
  · intro h
    exact ⟨innerPath path, isDressed_innerPath path, h ▸ isDressed_innerPath other⟩
  · rintro ⟨core, hpath, hother⟩
    rw [hpath.innerPath_eq, hother.innerPath_eq]

/-! ### Answers -/

/-- The path that an answer speaks of. -/
def reported : Except NotFound RouteMatch → String
  | .ok m => m.path
  | .error e => e.path

/-- Answers that differ at most in the path that they speak of. -/
inductive SameButPath : Except NotFound RouteMatch → Except NotFound RouteMatch → Prop
  | found {m n : RouteMatch} (name : m.name = n.name) (matched : m.matched = n.matched)
      (params : m.params = n.params) (view : m.view = n.view) : SameButPath (.ok m) (.ok n)
  | missing (e f : NotFound) : SameButPath (.error e) (.error f)

variable {t : Table}

theorem reported_resolve (t : Table) (path : String) :
    reported (t.resolve path).1 = normalizePath path := by
  rw [Table.resolve]
  cases t.hit? path <;> rfl

theorem Table.hit?_congr (h : pathSegments path = pathSegments other) : t.hit? path = t.hit? other := by
  rw [Table.hit?, Table.hit?, segmentsOf_innerPath, segmentsOf_innerPath, h]

theorem resolve_sameButPath (h : pathSegments path = pathSegments other) :
    SameButPath (t.resolve path).1 (t.resolve other).1 ∧ (t.resolve path).2 = (t.resolve other).2 := by
  rw [Table.resolve, Table.resolve, Table.hit?_congr h]
  cases t.hit? other with
  | none => exact ⟨.missing _ _, rfl⟩
  | some hit => exact ⟨.found rfl rfl rfl rfl, rfl⟩

theorem resolve_congr (h : normalizePath path = normalizePath other) :
    t.resolve path = t.resolve other := by
  have hsegments : pathSegments path = pathSegments other := by
    rw [← segmentsOf_innerPath, ← segmentsOf_innerPath, normalizePath_eq_iff.mp h]
  rw [Table.resolve, Table.resolve, Table.hit?_congr hsegments, h]
  cases t.hit? other with
  | none => rfl
  | some hit => simp only [Hit.toMatch, h]

theorem resolve_resolved (t : Table) (path later : String) :
    ((t.resolve path).2.resolve later).1 = (t.resolve later).1 := by
  have hsame : (t.resolve path).2.unresolved = t.unresolved := t.unresolved_step (.resolve path)
  have hafter := (t.resolve path).2.answer_unresolved (.resolve later)
  rw [hsame, ← t.answer_unresolved] at hafter
  exact Answer.navigated.inj hafter

/-- The path that an answer reports stands for all that lead to it. -/
theorem resolve_canonical (t : Table) (path : String) :
    let path' := reported (t.resolve path).1
    t.resolve path' = t.resolve path ∧
    ((t.resolve path).2.resolve path').1 = (t.resolve path).1 ∧
    (∀ other, pathSegments path = pathSegments other →
      SameButPath (t.resolve path).1 (t.resolve other).1 ∧ (t.resolve path).2 = (t.resolve other).2) ∧
    ∀ other,
      ((∃ core, IsDressed core path ∧ IsDressed core other) ↔
        path' = reported (t.resolve other).1) ∧
      (path' = reported (t.resolve other).1 → t.resolve path = t.resolve other) := by
  intro path'
  have hpath : path' = normalizePath path := reported_resolve t path
  have hagain : t.resolve path' = t.resolve path := by
    rw [hpath]
    exact resolve_congr (normalizePath_eq_iff.mpr (innerPath_normalizePath path))
  refine ⟨hagain, ?_, fun other => resolve_sameButPath, fun other => ?_⟩
  · rw [resolve_resolved, hagain]
  · rw [hpath, reported_resolve]
    exact ⟨normalizePath_eq_iff_dressed.symm, resolve_congr⟩

/-- Only the slashes at the ends are left out of the path that is reported. -/
example : normalizePath "//jobs//7/?tab=1#x" = "/jobs//7" := by decide

end ConsoleNav.Route
