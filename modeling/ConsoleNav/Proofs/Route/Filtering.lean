import ConsoleNav.Proofs.Route.Postorder
import ConsoleNav.Route.Filter

/-!
Navigation in a filtered table. What survives a filter stands in the same post-order and below the same
records as before, so that a path leads to the record it has led to as long as that one survives.
-/
namespace ConsoleNav.Route

def Record.bare (r : Record) : Record :=
  r.withChildren []

/-- A record and those around it, from the outside inwards, without what else they hold. -/
def Placed.outline (p : Placed) : List Record :=
  p.chain.map Record.bare

def Record.survives (allowed : List String) (r : Record) : Bool :=
  (r.keep allowed).isSome

variable {allowed : List String}

theorem Record.keep_eq (allowed : List String) (r : Record) :
    r.keep allowed =
      if r.isPublic || allowed.contains r.name || !(keepAll allowed r.children).isEmpty then
        some (r.withChildren (keepAll allowed r.children))
      else none := by
  obtain ⟨path, name, view, isPublic, children⟩ := r
  rw [Record.keep]
  rfl

theorem Record.keep_cases (allowed : List String) (r : Record) :
    (r.survives allowed = true ∧ r.keep allowed = some (r.withChildren (keepAll allowed r.children))) ∨
      (r.survives allowed = false ∧ r.keep allowed = none ∧ keepAll allowed r.children = []) := by
  have hkeep := r.keep_eq allowed
  unfold Record.survives
  split at hkeep
  · exact .inl ⟨by rw [hkeep]; rfl, hkeep⟩
  · rename_i hgone
    refine .inr ⟨by rw [hkeep]; rfl, hkeep, ?_⟩
    simp only [Bool.or_eq_true, not_or] at hgone
    simpa using hgone.2

theorem map_outline_within (r : Record) (ps : List Placed) :
    (ps.map (Placed.within r)).map Placed.outline =
      (ps.map Placed.outline).map fun outline => r.bare :: outline := by
  rw [List.map_map, List.map_map]
  rfl

theorem map_outline_at (index : Nat) (ps : List Placed) :
    (ps.map (Placed.at index)).map Placed.outline = ps.map Placed.outline := by
  rw [List.map_map]
  rfl

/-- The outlines of the records that survive, in the order of the list. -/
def survivors (allowed : List String) (ps : List Placed) : List (List Record) :=
  (ps.filter fun p => p.leaf.survives allowed).map Placed.outline

theorem survivors_append (allowed : List String) (ps qs : List Placed) :
    survivors allowed (ps ++ qs) = survivors allowed ps ++ survivors allowed qs := by
  rw [survivors, List.filter_append, List.map_append]
  rfl

theorem survivors_within (allowed : List String) (r : Record) (ps : List Placed) :
    survivors allowed (ps.map (Placed.within r)) =
      (survivors allowed ps).map fun outline => r.bare :: outline := by
  rw [survivors, List.filter_map, map_outline_within]
  rfl

theorem survivors_at (allowed : List String) (index : Nat) (ps : List Placed) :
    survivors allowed (ps.map (Placed.at index)) = survivors allowed ps := by
  rw [survivors, List.filter_map, map_outline_at]
  rfl

theorem Record.survivors_of_children (allowed : List String) (r : Record)
    (hchildren : (Route.postorder 0 (keepAll allowed r.children)).map Placed.outline =
      survivors allowed (Route.postorder 0 r.children)) :
    survivors allowed r.postorder =
      (r.keep allowed).elim [] fun kept => kept.postorder.map Placed.outline := by
  rw [Record.postorder_eq, survivors_append, survivors_within, ← hchildren]
  rcases r.keep_cases allowed with ⟨hsurvives, hkeep⟩ | ⟨hgone, hkeep, hnone⟩
  · have hself : survivors allowed [⟨[], [], r⟩] = [[r.bare]] := by
      simp [survivors, hsurvives, Placed.outline, Placed.chain]
    rw [hself, hkeep, Option.elim_some, Record.postorder_eq, List.map_append, map_outline_within]
    rfl
  · have hself : survivors allowed [⟨[], [], r⟩] = [] := by simp [survivors, hgone]
    rw [hself, hkeep, hnone]
    rfl

mutual
theorem Record.survivors_postorder (allowed : List String) :
    ∀ r : Record, survivors allowed r.postorder =
      (r.keep allowed).elim [] fun kept => kept.postorder.map Placed.outline
  | ⟨path, name, view, isPublic, children⟩ =>
      Record.survivors_of_children allowed ⟨path, name, view, isPublic, children⟩
        (survivors_postorder allowed 0 0 children)

/-- The records of a filtered table are the surviving ones of the whole table, in the same order. -/
theorem survivors_postorder (allowed : List String) (index other : Nat) :
    ∀ rs : List Record, (postorder index (keepAll allowed rs)).map Placed.outline =
      survivors allowed (postorder other rs)
  | [] => rfl
  | r :: rs => by
      have hfirst := Record.survivors_postorder allowed r
      rw [postorder, survivors_append, survivors_at, hfirst, keepAll]
      cases r.keep allowed with
      | none =>
          rw [Option.elim_none, List.nil_append]
          exact survivors_postorder allowed index (other + 1) rs
      | some kept =>
          rw [Option.elim_some, postorder, List.map_append, map_outline_at]
          congr 1
          exact survivors_postorder allowed (index + 1) (other + 1) rs
end

/-! ### What survives -/

/-- A record that is kept for its own sake. -/
def Record.IsGranted (allowed : List String) (r : Record) : Prop :=
  r.isPublic = true ∨ r.name ∈ allowed

theorem Record.survives_of_granted {r : Record} (h : r.IsGranted allowed) :
    r.survives allowed = true := by
  have hkeep := r.keep_eq allowed
  rw [if_pos] at hkeep
  · rw [Record.survives, hkeep]
    rfl
  · rcases h with h | h <;> simp [h]

mutual
theorem Record.exists_granted (allowed : List String) :
    ∀ r : Record, r.survives allowed = true → ∃ p ∈ r.postorder, p.leaf.IsGranted allowed
  | ⟨path, name, view, isPublic, children⟩ => by
      intro hsurvives
      by_cases hgranted : Record.IsGranted allowed ⟨path, name, view, isPublic, children⟩
      · exact ⟨_, Record.mem_postorder_iff.mpr (.inl rfl), hgranted⟩
      · obtain ⟨hpublic, hname⟩ := not_or.mp hgranted
        have hsome : keepAll allowed children ≠ [] := by
          intro hnone
          rw [Record.survives, Record.keep_eq] at hsurvives
          simp_all
        obtain ⟨p, hp, hgranted⟩ := exists_granted allowed 0 children hsome
        exact ⟨_, Record.mem_postorder_iff.mpr (.inr ⟨p, hp, rfl⟩), hgranted⟩

theorem exists_granted (allowed : List String) (index : Nat) :
    ∀ rs : List Record, keepAll allowed rs ≠ [] →
      ∃ p ∈ postorder index rs, p.leaf.IsGranted allowed
  | [] => fun h => absurd rfl h
  | r :: rs => by
      intro h
      have hfirst := Record.exists_granted allowed r
      simp only [postorder, List.mem_append, List.mem_map]
      rw [keepAll] at h
      cases hkeep : r.keep allowed with
      | none =>
          rw [hkeep] at h
          obtain ⟨p, hp, hgranted⟩ := exists_granted allowed (index + 1) rs h
          exact ⟨p, .inr hp, hgranted⟩
      | some kept =>
          obtain ⟨p, hp, hgranted⟩ := hfirst (by rw [Record.survives, hkeep]; rfl)
          exact ⟨p.at index, .inl ⟨p, hp, rfl⟩, hgranted⟩
end

/-- A record survives for its own sake or for the sake of one within it. -/
theorem Record.survives_iff (allowed : List String) (r : Record) :
    r.survives allowed = true ↔ ∃ p ∈ r.postorder, p.leaf.IsGranted allowed := by
  refine ⟨r.exists_granted allowed, ?_⟩
  rintro ⟨p, hp, hgranted⟩
  have hsome : p.outline ∈ survivors allowed r.postorder :=
    List.mem_map_of_mem (List.mem_filter.mpr ⟨hp, survives_of_granted hgranted⟩)
  rcases r.keep_cases allowed with ⟨hsurvives, -⟩ | ⟨-, hkeep, -⟩
  · exact hsurvives
  · rw [r.survivors_postorder allowed, hkeep] at hsome
    exact absurd hsome List.not_mem_nil

/-! ### Resolving -/

/-- The match for a path that the record with an outline gives. -/
def outlineMatch? (path : String) (outline : List Record) : Option RouteMatch :=
  let pattern := outline.foldl (fun base r => fullPattern base r.path) []
  (matchSegments (pattern.map Segment.ofString) (pathSegments path)).bind fun captures =>
    outline.getLast?.map fun leaf =>
      ⟨normalizePath path, leaf.name, outline.map Record.matched, parameters captures,
        leaf.view.located⟩

theorem Placed.toMatch_hit? (path : String) (p : Placed) :
    (p.hit? [] (pathSegments path)).map (Hit.toMatch path) = outlineMatch? path p.outline := by
  have hpattern : p.outline.foldl (fun base r => fullPattern base r.path) [] = p.pattern [] := by
    rw [Placed.outline, List.foldl_map]
    rfl
  have hmatched : p.outline.map Record.matched = p.chain.map Record.matched := by
    rw [Placed.outline, List.map_map]
    rfl
  have hleaf : p.outline.getLast? = some p.leaf.bare := by
    simp [Placed.outline, Placed.chain]
  rw [outlineMatch?, hpattern, hmatched, hleaf, Placed.hit?, Option.map_map]
  cases matchSegments ((p.pattern []).map Segment.ofString) (pathSegments path) <;> rfl

theorem Table.toMatch_hit? (t : Table) (path : String) :
    (t.hit? path).map (Hit.toMatch path) =
      ((postorder 0 t.records).map Placed.outline).findSome? (outlineMatch? path) := by
  rw [t.hit?_eq, List.map_findSome?, List.findSome?_map]
  congr 1
  funext p
  exact p.toMatch_hit? path

theorem Table.resolve_fst (t : Table) (path : String) :
    (t.resolve path).1 =
      match (t.hit? path).map (Hit.toMatch path) with
      | some m => .ok m
      | none => .error ⟨normalizePath path⟩ := by
  rw [Table.resolve]
  cases t.hit? path <;> rfl

theorem findSome?_filter_of_eq_some {α β : Type} {f : α → Option β} {xs : List α} {b : β}
    (h : xs.findSome? f = some b) (keeps : α → Bool) (hkeeps : ∀ x, f x = some b → keeps x = true) :
    (xs.filter keeps).findSome? f = some b := by
  obtain ⟨before, x, after, rfl, hx, hbefore⟩ := List.findSome?_eq_some_iff.mp h
  rw [List.filter_append, List.filter_cons_of_pos (hkeeps x hx), List.findSome?_eq_some_iff]
  exact ⟨_, x, _, rfl, hx, fun y hy => hbefore y (List.mem_of_mem_filter hy)⟩

theorem findSome?_filter_of_eq_none {α β : Type} {f : α → Option β} {xs : List α}
    (h : xs.findSome? f = none) (keeps : α → Bool) : (xs.filter keeps).findSome? f = none := by
  rw [List.findSome?_eq_none_iff] at h ⊢
  exact fun x hx => h x (List.mem_of_mem_filter hx)

variable {t : Table} {path : String} {hit : Hit}

/-- The answers of a filtered table are found among the surviving records of the whole table. -/
theorem toMatch_hit?_filtered (allowed : List String) (t : Table) (path : String) :
    ((⟨keepAll allowed t.records⟩ : Table).hit? path).map (Hit.toMatch path) =
      (((postorder 0 t.records).filter fun p => p.leaf.survives allowed).findSome?
        (Placed.hit? [] (pathSegments path))).map (Hit.toMatch path) := by
  rw [Table.toMatch_hit?, survivors_postorder allowed 0 0 t.records, survivors, List.map_findSome?,
    List.findSome?_map]
  congr 1
  funext p
  exact (p.toMatch_hit? path).symm

theorem Placed.leaf_of_hit? {base segments : List String} {p : Placed}
    (h : p.hit? base segments = some hit) : p.leaf = hit.leaf := by
  obtain ⟨captures, -, rfl⟩ := Option.map_eq_some_iff.mp h
  rfl

theorem resolve_filtered_of_survives (hhit : t.hit? path = some hit)
    (hsurvives : hit.leaf.survives allowed = true) :
    ((⟨keepAll allowed t.records⟩ : Table).resolve path).1 = .ok (hit.toMatch path) := by
  rw [t.hit?_eq] at hhit
  have hfiltered := findSome?_filter_of_eq_some hhit (fun p => p.leaf.survives allowed)
    fun p hp => by rwa [Placed.leaf_of_hit? hp]
  rw [Table.resolve_fst, toMatch_hit?_filtered, hfiltered]
  rfl

theorem resolve_filtered_of_hit?_eq_none (hnone : t.hit? path = none) :
    ((⟨keepAll allowed t.records⟩ : Table).resolve path).1 = .error ⟨normalizePath path⟩ := by
  rw [t.hit?_eq] at hnone
  rw [Table.resolve_fst, toMatch_hit?_filtered, findSome?_filter_of_eq_none hnone]
  rfl

/-- Filtering and navigation agree. -/
theorem resolve_filtered (t : Table) (permissions : List Permission) (path : String) :
    let allowed := permissions.map Permission.routeName
    let filtered : Table := ⟨FilterKind.permission.apply permissions t.records⟩
    (postorder 0 filtered.records).map Placed.outline =
      ((postorder 0 t.records).filter fun p => p.leaf.survives allowed).map Placed.outline ∧
    (∀ r : Record, r.survives allowed = true ↔ ∃ p ∈ r.postorder, p.leaf.IsGranted allowed) ∧
    (∀ m, (t.resolve path).1 = .ok m → ∃ hit, t.hit? path = some hit ∧ m = hit.toMatch path ∧
      (hit.leaf.IsGranted allowed → hit.leaf.survives allowed = true) ∧
      (hit.leaf.survives allowed = true → (filtered.resolve path).1 = .ok m)) ∧
    ∀ m, (filtered.resolve path).1 = .ok m → ∃ n, (t.resolve path).1 = .ok n := by
  intro allowed filtered
  refine ⟨survivors_postorder allowed 0 0 t.records, Record.survives_iff allowed, ?_, ?_⟩
  · intro m hm
    rw [Table.resolve_fst] at hm
    cases hhit : t.hit? path with
    | none =>
        rw [hhit] at hm
        cases hm
    | some hit =>
        rw [hhit] at hm
        cases hm
        exact ⟨hit, rfl, rfl, Record.survives_of_granted, resolve_filtered_of_survives hhit⟩
  · intro m hm
    cases hhit : t.hit? path with
    | none =>
        have hnone : (filtered.resolve path).1 = .error ⟨normalizePath path⟩ :=
          resolve_filtered_of_hit?_eq_none hhit
        rw [hnone] at hm
        cases hm
    | some hit =>
        refine ⟨hit.toMatch path, ?_⟩
        rw [Table.resolve_fst, hhit]
        rfl

end ConsoleNav.Route
