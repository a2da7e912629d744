import ConsoleNav.Proofs.Route.Matching
import ConsoleNav.Route.Table

/-!
Resolving a path as a search in a list: the records of a table, each one after those within it, of
which the first one with a pattern that matches the path is found.
-/
namespace ConsoleNav.Route

/-- A record in its place in a table, with the records around it from the outside inwards. -/
structure Placed where
  position : Position
  outer : List Record
  leaf : Record

def Placed.chain (p : Placed) : List Record :=
  p.outer ++ [p.leaf]

/-- A record within `r` as one of the records around `r` sees it. -/
def Placed.within (r : Record) (p : Placed) : Placed :=
  { p with outer := r :: p.outer }

/-- A record within number `index` of some records. -/
def Placed.at (index : Nat) (p : Placed) : Placed :=
  { p with position := index :: p.position }

mutual
/-- The records within a record and the record itself, in this order. -/
def Record.postorder : Record → List Placed
  | r@⟨_, _, _, _, children⟩ => (postorder 0 children).map (Placed.within r) ++ [⟨[], [], r⟩]

/-- Records, the first of which is number `index`, each one after those within it. -/
def postorder (index : Nat) : List Record → List Placed
  | [] => []
  | r :: rs => r.postorder.map (Placed.at index) ++ postorder (index + 1) rs
end

/-- The full pattern of a record below a base pattern. -/
def Placed.pattern (base : List String) (p : Placed) : List String :=
  p.chain.foldl (fun base r => fullPattern base r.path) base

theorem Record.postorder_eq (r : Record) :
    r.postorder = (Route.postorder 0 r.children).map (Placed.within r) ++ [⟨[], [], r⟩] := by
  obtain ⟨path, name, view, isPublic, children⟩ := r
  rw [Record.postorder]

/-- Where the records of a table are. -/
inductive Placed.IsIn : Placed → List Record → Prop
  | top {rs : List Record} {i : Nat} {r : Record} (here : rs[i]? = some r) :
      IsIn ⟨[i], [], r⟩ rs
  | inner {rs : List Record} {i : Nat} {r : Record} {p : Placed} (here : rs[i]? = some r)
      (within : p.IsIn r.children) : IsIn ((p.within r).at i) rs

theorem Record.mem_postorder_iff {r : Record} {q : Placed} :
    q ∈ r.postorder ↔ q = ⟨[], [], r⟩ ∨ ∃ p ∈ Route.postorder 0 r.children, q = p.within r := by
  rw [Record.postorder_eq, List.mem_append, List.mem_map, List.mem_singleton, or_comm]
  simp only [eq_comm]

theorem mem_postorder_from {index : Nat} {rs : List Record} {p : Placed} :
    p ∈ postorder index rs ↔
      ∃ (i : Nat) (r : Record), rs[i]? = some r ∧ ∃ q ∈ r.postorder, p = q.at (index + i) := by
  induction rs generalizing index with
  | nil => simp [postorder]
  | cons s rs ih =>
      rw [postorder, List.mem_append, List.mem_map, ih]
      constructor
      · rintro (⟨q, hq, rfl⟩ | ⟨i, r, hr, q, hq, rfl⟩)
        · exact ⟨0, s, rfl, q, hq, rfl⟩
        · exact ⟨i + 1, r, by simpa using hr, q, hq, by rw [Nat.add_assoc, Nat.add_comm 1]⟩
      · rintro ⟨_ | i, r, hr, q, hq, rfl⟩
        · cases hr
          exact .inl ⟨q, hq, rfl⟩
        · exact .inr ⟨i, r, by simpa using hr, q, hq, by rw [Nat.add_assoc, Nat.add_comm 1]⟩

/-- All records of a table are in the list. -/
theorem mem_postorder_iff {rs : List Record} {p : Placed} :
    p ∈ postorder 0 rs ↔ p.IsIn rs := by
  constructor
  · intro hp
    -- There is one record less around `p` with each level.
    induction houter : p.outer generalizing p rs with
    | nil =>
        obtain ⟨i, r, hr, q, hq, rfl⟩ := mem_postorder_from.mp hp
        rcases Record.mem_postorder_iff.mp hq with rfl | ⟨c, -, rfl⟩
        · rw [Nat.zero_add]
          exact .top hr
        · cases houter
    | cons _ outer ih =>
        obtain ⟨i, r, hr, q, hq, rfl⟩ := mem_postorder_from.mp hp
        rcases Record.mem_postorder_iff.mp hq with rfl | ⟨c, hc, rfl⟩
        · cases houter
        · rw [Nat.zero_add]
          exact .inner hr (ih hc (List.cons.inj houter).2)
  · intro h
    induction h with
    | @top rs i r here =>
        refine mem_postorder_from.mpr ⟨i, r, here, ⟨[], [], r⟩, ?_, by rw [Nat.zero_add]; rfl⟩
        exact Record.mem_postorder_iff.mpr (.inl rfl)
    | @inner rs i r p here within ih =>
        refine mem_postorder_from.mpr ⟨i, r, here, p.within r, ?_, by rw [Nat.zero_add]⟩
        exact Record.mem_postorder_iff.mpr (.inr ⟨p, ih, rfl⟩)

/-! ### The search -/

def Placed.hit? (base : List String) (segments : List String) (p : Placed) : Option Hit :=
  (matchSegments ((p.pattern base).map Segment.ofString) segments).map fun captures =>
    ⟨p.outer, p.leaf, p.position, captures⟩

theorem findSome?_within (base segments : List String) (r : Record) (ps : List Placed) :
    (ps.map (Placed.within r)).findSome? (Placed.hit? base segments) =
      (ps.findSome? (Placed.hit? (fullPattern base r.path) segments)).map fun hit =>
        { hit with outer := r :: hit.outer } := by
  rw [List.findSome?_map, List.map_findSome?]
  congr 1
  funext p
  simp [Placed.hit?, Placed.within, Placed.pattern, Placed.chain, Function.comp_def]

theorem findSome?_at (base segments : List String) (index : Nat) (ps : List Placed) :
    (ps.map (Placed.at index)).findSome? (Placed.hit? base segments) =
      (ps.findSome? (Placed.hit? base segments)).map fun hit =>
        { hit with position := index :: hit.position } := by
  rw [List.findSome?_map, List.map_findSome?]
  congr 1
  funext p
  simp [Placed.hit?, Placed.at, Placed.pattern, Placed.chain, Function.comp_def]

mutual
theorem Record.search_eq (base segments : List String) :
    ∀ r : Record, r.search (base.map Segment.ofString) segments =
      r.postorder.findSome? (Placed.hit? base segments)
  | ⟨path, name, view, isPublic, children⟩ => by
      have hchildren := search_eq (fullPattern base path) segments 0 children
      rw [Record.search, Record.postorder, extendPattern_map, hchildren, List.findSome?_append,
        findSome?_within]
      cases (postorder 0 children).findSome? (Placed.hit? (fullPattern base path) segments) with
      | some hit => rfl
      | none => simp [Placed.hit?, Placed.pattern, Placed.chain]

/-- The search finds the first record in the list with a pattern that matches. -/
theorem search_eq (base segments : List String) (index : Nat) :
    ∀ rs : List Record, search (base.map Segment.ofString) segments index rs =
      (postorder index rs).findSome? (Placed.hit? base segments)
  | [] => rfl
  | r :: rs => by
      have hfirst := Record.search_eq base segments r
      have hrest := search_eq base segments (index + 1) rs
      rw [search, postorder, hfirst, hrest, List.findSome?_append, findSome?_at]
      cases r.postorder.findSome? (Placed.hit? base segments) <;> rfl
end

/-! ### The order of the list -/

/-- The first of two records lies within the second one. -/
def Placed.IsBelow (q p : Placed) : Prop :=
  ∃ i rest, q.position = p.position ++ i :: rest

theorem Placed.not_isBelow_self (p : Placed) : ¬ p.IsBelow p := by
  rintro ⟨i, rest, hposition⟩
  simp at hposition

theorem index_le_of_mem_postorder (index : Nat) (rs : List Record) :
    ∀ p ∈ postorder index rs, ∃ i rest, index ≤ i ∧ p.position = i :: rest := by
  induction rs generalizing index with
  | nil => exact fun p hp => absurd hp List.not_mem_nil
  | cons r rs ih =>
      intro p hp
      rw [postorder, List.mem_append, List.mem_map] at hp
      rcases hp with ⟨q, -, rfl⟩ | hp
      · exact ⟨index, q.position, Nat.le_refl _, rfl⟩
      · obtain ⟨i, rest, hle, hposition⟩ := ih (index + 1) p hp
        exact ⟨i, rest, by omega, hposition⟩

mutual
theorem Record.pairwise_postorder :
    ∀ r : Record, r.postorder.Pairwise fun p q => ¬ q.IsBelow p
  | ⟨path, name, view, isPublic, children⟩ => by
      rw [Record.postorder, List.pairwise_append]
      refine ⟨?_, List.pairwise_singleton _ _, ?_⟩
      · rw [List.pairwise_map]
        exact pairwise_postorder 0 children
      · rintro p - q hq ⟨i, rest, hposition⟩
        rw [List.mem_singleton.mp hq] at hposition
        simp at hposition

/-- No record comes after one that it lies within. -/
theorem pairwise_postorder (index : Nat) :
    ∀ rs : List Record, (postorder index rs).Pairwise fun p q => ¬ q.IsBelow p
  | [] => .nil
  | r :: rs => by
      rw [postorder, List.pairwise_append]
      refine ⟨?_, pairwise_postorder (index + 1) rs, ?_⟩
      · rw [List.pairwise_map]
        refine (Record.pairwise_postorder r).imp ?_
        rintro p q hbelow ⟨i, rest, hposition⟩
        exact hbelow ⟨i, rest, (List.cons.inj hposition).2⟩
      · -- The positions of later records begin with a greater number.
        rintro p hp q hq ⟨i, rest, hposition⟩
        obtain ⟨p, -, rfl⟩ := List.mem_map.mp hp
        obtain ⟨j, tail, hle, hlater⟩ := index_le_of_mem_postorder (index + 1) rs q hq
        rw [hlater] at hposition
        have := (List.cons.inj hposition).1
        omega
end

/-! ### Resolving -/

theorem Placed.hit?_eq_none_iff {segments : List String} {p : Placed} :
    p.hit? [] segments = none ↔ ¬ Matches (p.pattern []) segments := by
  rw [← isSome_matchSegments, Placed.hit?, Option.map_eq_none_iff, Option.not_isSome_iff_eq_none]

theorem Table.hit?_eq (t : Table) (path : String) :
    t.hit? path = (postorder 0 t.records).findSome? (Placed.hit? [] (pathSegments path)) := by
  rw [Table.hit?, segmentsOf_innerPath]
  exact search_eq [] (pathSegments path) 0 t.records

/-- The first record in post-order that matches a path is the one that the path is resolved to. -/
theorem resolve_first_match (t : Table) (path : String) :
    let records := postorder 0 t.records
    let segments := pathSegments path
    (∀ p, p ∈ records ↔ p.IsIn t.records) ∧
    ((∃ m, (t.resolve path).1 = .ok m) ↔ ∃ p ∈ records, Matches (p.pattern []) segments) ∧
    (∀ before p after, records = before ++ p :: after → Matches (p.pattern []) segments →
      (∀ q ∈ before, ¬ Matches (q.pattern []) segments) →
      ∃ captures,
        matchSegments ((p.pattern []).map Segment.ofString) segments = some captures ∧
        t.hit? path = some ⟨p.outer, p.leaf, p.position, captures⟩ ∧
        t.resolve path =
          (.ok ⟨normalizePath path, p.leaf.name, p.chain.map Record.matched, parameters captures,
            p.leaf.view.located⟩, ⟨resolveAlong p.position t.records⟩) ∧
        ∀ q ∈ records, q.IsBelow p → ¬ Matches (q.pattern []) segments) ∧
    ((∀ p ∈ records, ¬ Matches (p.pattern []) segments) →
      t.resolve path = (.error ⟨normalizePath path⟩, t)) := by
  intro records segments
  have hnone : t.hit? path = none ↔ ∀ p ∈ records, ¬ Matches (p.pattern []) segments := by
    rw [t.hit?_eq, List.findSome?_eq_none_iff]
    simp only [Placed.hit?_eq_none_iff, records, segments]
  refine ⟨fun p => mem_postorder_iff, ?_, ?_, ?_⟩
  · constructor
    · rintro ⟨m, hm⟩
      by_contra hno
      rw [Table.resolve, hnone.mpr fun p hp hmatch => hno ⟨p, hp, hmatch⟩] at hm
      cases hm
    · rintro ⟨p, hp, hmatch⟩
      cases hhit : t.hit? path with
      | none => exact absurd hmatch (hnone.mp hhit p hp)
      | some hit => exact ⟨hit.toMatch path, by rw [Table.resolve, hhit]⟩
  · intro before p after hsplit hmatch hbefore
    obtain ⟨captures, hcaptures⟩ :=
      Option.isSome_iff_exists.mp ((isSome_matchSegments _ _).mpr hmatch)
    have hhit : t.hit? path = some ⟨p.outer, p.leaf, p.position, captures⟩ := by
      rw [t.hit?_eq, List.findSome?_eq_some_iff]
      refine ⟨before, p, after, hsplit, by simp [Placed.hit?, segments, hcaptures], fun q hq => ?_⟩
      exact Placed.hit?_eq_none_iff.mpr (hbefore q hq)
    refine ⟨captures, hcaptures, hhit, by rw [Table.resolve, hhit]; rfl, ?_⟩
    intro q hq hbelow
    have horder : records.Pairwise fun p q => ¬ q.IsBelow p := pairwise_postorder 0 t.records
    rw [hsplit, List.pairwise_append, List.pairwise_cons] at horder
    rw [hsplit, List.mem_append, List.mem_cons] at hq
    rcases hq with hq | rfl | hq
    · exact hbefore q hq
    · exact absurd hbelow (Placed.not_isBelow_self q)
    · exact absurd hbelow (horder.2.1.1 q hq)
  · intro hall
    rw [Table.resolve, hnone.mpr hall]

end ConsoleNav.Route
