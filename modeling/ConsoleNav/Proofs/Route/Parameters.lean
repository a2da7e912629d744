import ConsoleNav.Proofs.Keyed
import ConsoleNav.Proofs.Route.Place
import ConsoleNav.Proofs.Text.Splitting
import Mathlib.Data.List.Chain
import Mathlib.Data.List.Nodup
import Mathlib.Data.List.TakeWhile

/-!
What a match for a path says: the records on the way to the one that is matched, and what the parameters
of its pattern have captured. Where no two parameters have one name, the captures put into the pattern
give the segments of the path back.
-/
namespace ConsoleNav

namespace Route

/-! ### Segments of a path -/

theorem of_mem_segmentsOf {cs : List Char} {s : String} (h : s ∈ segmentsOf cs) :
    s ≠ "" ∧ '/' ∉ s.toList ∧ s.toList ⊆ cs := by
  obtain ⟨part, hpart, rfl⟩ := List.mem_map.mp h
  obtain ⟨hsplit, hsome⟩ := List.mem_filter.mp hpart
  rw [String.toList_ofList]
  refine ⟨?_, Text.mem_splitAt hsplit⟩
  intro hempty
  rw [← String.toList_inj, String.toList_ofList] at hempty
  subst hempty
  cases hsome

/-- A segment is not empty, and it ends before a slash, a query or a fragment. -/
def IsPlain (s : String) : Prop :=
  s ≠ "" ∧ ∀ c ∈ s.toList, c ≠ '/' ∧ c ≠ '?' ∧ c ≠ '#'

theorem isPlain_of_mem_pathSegments {path s : String} (h : s ∈ pathSegments path) : IsPlain s := by
  obtain ⟨hne, hslash, hsubset⟩ := of_mem_segmentsOf h
  refine ⟨hne, fun c hc => ?_⟩
  have hbefore := List.mem_takeWhile_imp (hsubset hc)
  rw [Bool.and_eq_true, bne_iff_ne, bne_iff_ne] at hbefore
  refine ⟨?_, hbefore⟩
  rintro rfl
  exact hslash hc

/-! ### Captures -/

/-- The name in a segment of a pattern that begins with a colon. -/
def parameterName? (s : String) : Option String :=
  match Segment.ofString s with
  | .capture name => some name
  | .literal _ => none

/-- What stands in a path for a segment of its pattern, as the parameters say. -/
def substitute (params : List (String × String)) (s : String) : Option String :=
  match parameterName? s with
  | some name => params.lookup name
  | none => some s

/-- The capture of a segment of a pattern in the place of a segment of a path. -/
def captured? (x : String × String) : Option (String × String) :=
  (parameterName? x.1).map fun name => (name, x.2)

variable {pattern segments : List String} {captures : List (String × String)} {n v : String}

theorem parameterName?_eq_some_iff {s : String} : parameterName? s = some n ↔ s = ":" ++ n := by
  have hcolon : s = ":" ++ n ↔ s.toList = ':' :: n.toList := by
    rw [← String.toList_inj, String.toList_append]
    rfl
  rw [hcolon]
  unfold parameterName? Segment.ofString
  split
  · rename_i hname
    split at hname
    · rename_i name hs
      cases hname
      rw [hs, Option.some.injEq, List.cons.injEq, ← String.toList_inj, String.toList_ofList]
      exact (and_iff_right rfl).symm
    · cases hname
  · rename_i hliteral
    split at hliteral
    · cases hliteral
    · rename_i hother
      constructor
      · intro h
        cases h
      · intro hs
        exact absurd hs (hother _)

theorem captures_of_matchSegments
    (h : matchSegments (pattern.map Segment.ofString) segments = some captures) :
    pattern.length = segments.length ∧ captures = (pattern.zip segments).filterMap captured? ∧
      ∀ x ∈ pattern.zip segments, parameterName? x.1 = none → x.1 = x.2 := by
  induction pattern generalizing segments captures with
  | nil =>
      cases segments with
      | nil =>
          cases h
          exact ⟨rfl, rfl, fun x hx => absurd hx List.not_mem_nil⟩
      | cons => cases h
  | cons expected pattern ih =>
      rw [List.map_cons] at h
      cases segments with
      | nil => rcases ofString_cases expected with ⟨-, name, hof⟩ | ⟨-, hof⟩ <;> rw [hof] at h <;> cases h
      | cons actual segments =>
          rw [List.zip_cons_cons, List.length_cons, List.length_cons, List.forall_mem_cons]
          rcases ofString_cases expected with ⟨-, name, hof⟩ | ⟨-, hof⟩
          · rw [hof, matchSegments] at h
            obtain ⟨later, hlater, rfl⟩ := Option.map_eq_some_iff.mp h
            obtain ⟨hlength, rfl, hsame⟩ := ih hlater
            have hname : parameterName? expected = some name := by rw [parameterName?, hof]
            refine ⟨congrArg (· + 1) hlength, ?_, ?_, hsame⟩
            · rw [List.filterMap_cons_some (b := (name, actual))]
              rw [captured?, hname, Option.map_some]
            · intro hnone
              rw [hname] at hnone
              cases hnone
          · rw [hof, matchSegments] at h
            split at h
            · rename_i heq
              obtain ⟨hlength, rfl, hsame⟩ := ih h
              have hname : parameterName? expected = none := by rw [parameterName?, hof]
              refine ⟨congrArg (· + 1) hlength, ?_, fun _ => heq, hsame⟩
              rw [List.filterMap_cons_none]
              rw [captured?, hname, Option.map_none]
            · cases h

theorem isLast_captures_iff (pairs : List (String × String)) :
    Keyed.IsLast (pairs.filterMap captured?) n v ↔ Keyed.IsLast pairs (":" ++ n) v := by
  induction pairs using List.reverseRecOn with
  | nil => simp [Keyed.IsLast]
  | append_singleton pairs x ih =>
      obtain ⟨s, w⟩ := x
      rw [List.filterMap_append, Keyed.isLast_concat_iff]
      cases hs : parameterName? s with
      | none =>
          have hother : ":" ++ n ≠ s := by
            intro heq
            rw [parameterName?_eq_some_iff.mpr heq.symm] at hs
            cases hs
          rw [List.filterMap_cons_none (by rw [captured?, hs, Option.map_none]), List.filterMap_nil,
            List.append_nil, ih]
          simp [hother]
      | some k =>
          obtain rfl := parameterName?_eq_some_iff.mp hs
          have hkey : ":" ++ n = ":" ++ k ↔ n = k := by
            constructor
            · intro heq
              have hsame := parameterName?_eq_some_iff.mpr heq
              rw [parameterName?_eq_some_iff.mpr rfl] at hsame
              exact Option.some.inj hsame
            · rintro rfl
              rfl
          rw [List.filterMap_cons_some (b := (k, w)) (by rw [captured?, hs, Option.map_some]),
            List.filterMap_nil, Keyed.isLast_concat_iff, ih, Prod.mk.injEq, Prod.mk.injEq, hkey, Ne, Ne,
            hkey]

theorem mem_parameters_iff
    (h : matchSegments (pattern.map Segment.ofString) segments = some captures) :
    (n, v) ∈ parameters captures ↔ Keyed.IsLast (pattern.zip segments) (":" ++ n) v := by
  rw [parameters, Keyed.mem_ofList_iff, (captures_of_matchSegments h).2.1, isLast_captures_iff]

theorem name_mem_parameters_iff
    (h : matchSegments (pattern.map Segment.ofString) segments = some captures) :
    n ∈ (parameters captures).map Prod.fst ↔ ":" ++ n ∈ pattern := by
  have hlength := (captures_of_matchSegments h).1
  calc
    n ∈ (parameters captures).map Prod.fst ↔ ∃ v, (n, v) ∈ parameters captures := by simp
    _ ↔ ∃ v, Keyed.IsLast (pattern.zip segments) (":" ++ n) v :=
      exists_congr fun v => mem_parameters_iff h
    _ ↔ ":" ++ n ∈ pattern := by rw [Keyed.exists_isLast_iff, List.map_fst_zip (Nat.le_of_eq hlength)]

theorem isLast_of_nodup {pairs : List (String × String)}
    (h : ((pairs.map Prod.fst).filterMap parameterName?).Nodup) (hx : (":" ++ n, v) ∈ pairs) :
    Keyed.IsLast pairs (":" ++ n) v := by
  have hname : parameterName? (":" ++ n) = some n := parameterName?_eq_some_iff.mpr rfl
  obtain ⟨before, after, rfl⟩ := List.append_of_mem hx
  refine ⟨before, after, rfl, fun hagain => ?_⟩
  rw [List.map_append, List.map_cons, List.filterMap_append, List.filterMap_cons_some hname,
    List.nodup_append', List.nodup_cons] at h
  exact h.2.1.1 (List.mem_filterMap.mpr ⟨_, hagain, hname⟩)

/-- The captures put into the pattern give the segments of the path back. -/
theorem map_substitute (h : matchSegments (pattern.map Segment.ofString) segments = some captures)
    (hnodup : (pattern.filterMap parameterName?).Nodup) :
    pattern.map (substitute (parameters captures)) = segments.map some := by
  obtain ⟨hlength, -, hsame⟩ := captures_of_matchSegments h
  have hfst := List.map_fst_zip (Nat.le_of_eq hlength)
  have hsnd := List.map_snd_zip (Nat.le_of_eq hlength.symm)
  suffices ∀ x ∈ pattern.zip segments, substitute (parameters captures) x.1 = some x.2 by
    conv_lhs => rw [← hfst, List.map_map]
    conv_rhs => rw [← hsnd, List.map_map]
    exact List.map_congr_left this
  rintro ⟨s, v⟩ hx
  unfold substitute
  cases hs : parameterName? s with
  | none => exact congrArg some (hsame _ hx hs)
  | some n =>
      obtain rfl := parameterName?_eq_some_iff.mp hs
      have hlast : Keyed.IsLast (pattern.zip segments) (":" ++ n) v :=
        isLast_of_nodup (by rwa [hfst]) hx
      exact (Keyed.isOrdered_ofList captures).lookup_eq ((mem_parameters_iff h).mpr hlast)

/-! ### The way to a record -/

theorem Placed.IsIn.isChain {placed : Placed} {rs : List Record} (h : placed.IsIn rs) :
    placed.chain.IsChain (fun r s => s ∈ r.children) ∧ ∃ r ∈ rs, placed.chain.head? = some r := by
  induction h with
  | @top rs i r here => exact ⟨List.isChain_singleton r, r, List.mem_of_getElem? here, rfl⟩
  | @inner rs i r p here within ih =>
      obtain ⟨hchain, child, hchild, hhead⟩ := ih
      refine ⟨hchain.cons fun s hs => ?_, r, List.mem_of_getElem? here, rfl⟩
      rw [hhead] at hs
      cases hs
      exact hchild

def Record.IsAbsolute (r : Record) : Prop :=
  r.path.toList.head? = some '/'

/-- A full pattern is made of the paths from the last absolute one on, or of all if there is none. -/
theorem foldl_fullPattern (chain : List Record) :
    ∃ before after, chain = before ++ after ∧
      chain.foldl (fun base r => fullPattern base r.path) [] =
        after.flatMap (fun r => segmentsOf r.path.toList) ∧
      (∀ r ∈ after.tail, ¬ r.IsAbsolute) ∧ (before ≠ [] → ∃ r ∈ after.head?, r.IsAbsolute) := by
  induction chain using List.reverseRecOn with
  | nil => exact ⟨[], [], rfl, rfl, fun r hr => absurd hr List.not_mem_nil, fun h => absurd rfl h⟩
  | append_singleton chain r ih =>
      rw [List.foldl_append, List.foldl_cons, List.foldl_nil, fullPattern]
      by_cases habsolute : r.path.toList.head? = some '/'
      · refine ⟨chain, [r], rfl, ?_, fun s hs => absurd hs List.not_mem_nil, fun _ => ⟨r, rfl, habsolute⟩⟩
        rw [if_pos habsolute, List.flatMap_singleton]
      · obtain ⟨before, after, rfl, hpattern, hrelative, hstart⟩ := ih
        refine ⟨before, after ++ [r], List.append_assoc _ _ _, ?_, ?_, ?_⟩
        · rw [if_neg habsolute, hpattern, List.flatMap_append, List.flatMap_singleton]
        · cases after with
          | nil => exact fun s hs => absurd hs List.not_mem_nil
          | cons first after =>
              intro s hs
              rcases List.mem_append.mp hs with hs | hs
              · exact hrelative s hs
              · rw [List.mem_singleton.mp hs]
                exact habsolute
        · intro hbefore
          obtain ⟨s, hs, hroot⟩ := hstart hbefore
          refine ⟨s, ?_, hroot⟩
          rw [List.head?_append, Option.mem_def.mp hs]
          rfl

/-! ### Matches -/

/-- The record of a hit in its place. -/
def Hit.placed (hit : Hit) : Placed :=
  ⟨hit.position, hit.outer, hit.leaf⟩

/-- What a match says about a record in its place and the segments of the path that has led to it. -/
structure RouteMatch.Describes (m : RouteMatch) (p : Placed) (segments : List String) : Prop where
  matched : m.matched = p.chain.map Record.matched
  name : m.name = p.leaf.name
  view : m.view = p.leaf.view.located
  length : (p.pattern []).length = segments.length
  keys : ∀ n, n ∈ m.params.map Prod.fst ↔ ":" ++ n ∈ p.pattern []
  values : ∀ n v, (n, v) ∈ m.params ↔ Keyed.IsLast ((p.pattern []).zip segments) (":" ++ n) v
  ordered : Keyed.IsOrdered m.params
  filled : ((p.pattern []).filterMap parameterName?).Nodup →
    (p.pattern []).map (substitute m.params) = segments.map some
  plain : ∀ e ∈ m.params, IsPlain e.2

theorem Table.describes_hit? {t : Table} {path : String} {hit : Hit} (h : t.hit? path = some hit) :
    (hit.toMatch path).Describes hit.placed (pathSegments path) := by
  have hmatch : matchSegments ((hit.placed.pattern []).map Segment.ofString) (pathSegments path) =
      some hit.captures := by
    rw [t.hit?_eq] at h
    obtain ⟨placed, -, hhit⟩ := List.exists_of_findSome?_eq_some h
    obtain ⟨captures, hcaptures, rfl⟩ := Option.map_eq_some_iff.mp hhit
    exact hcaptures
  constructor
  case matched | name | view => rfl
  case length => exact (captures_of_matchSegments hmatch).1
  case keys => exact fun n => name_mem_parameters_iff hmatch
  case values => exact fun n v => mem_parameters_iff hmatch
  case ordered => exact Keyed.isOrdered_ofList hit.captures
  case filled => exact map_substitute hmatch
  case plain =>
    rintro ⟨n, v⟩ hv
    have hlast := (mem_parameters_iff hmatch).mp hv
    exact isPlain_of_mem_pathSegments (List.of_mem_zip hlast.mem).2

/-- The contents of a match are exact. -/
theorem resolve_contents {t : Table} {path : String} {m : RouteMatch}
    (h : (t.resolve path).1 = .ok m) :
    ∃ hit, t.hit? path = some hit ∧ m.path = normalizePath path ∧
      m.Describes hit.placed (pathSegments path) ∧
      hit.placed.IsIn t.records ∧
      hit.placed.chain.IsChain (fun r s => s ∈ r.children) ∧
      (∃ r ∈ t.records, hit.placed.chain.head? = some r) ∧
      (∃ before after, hit.placed.chain = before ++ after ∧
        hit.placed.pattern [] = after.flatMap (fun r => segmentsOf r.path.toList) ∧
        (∀ r ∈ after.tail, ¬ r.IsAbsolute) ∧ (before ≠ [] → ∃ r ∈ after.head?, r.IsAbsolute)) := by
  cases hhit : t.hit? path with
  | none =>
      rw [Table.resolve, hhit] at h
      cases h
  | some hit =>
      rw [Table.resolve, hhit] at h
      cases h
      have hin : hit.placed.IsIn t.records := Table.hit?_isIn hhit
      exact ⟨hit, rfl, rfl, Table.describes_hit? hhit, hin, hin.isChain.1, hin.isChain.2,
        foldl_fullPattern hit.placed.chain⟩

/-- A nested parameter hides one of the same name in a record around it. -/
theorem resolve_contents_hidden_name :
    let order : Record := { path := "orders/:id/:tab", name := "Order", view := ⟨"Order", false⟩ }
    let shop : Record :=
      { path := "shops/:id", name := "Shop", view := ⟨"Shop", false⟩, children := [order] }
    let t : Table := ⟨[shop]⟩
    let path := "/shops/7//orders/9/open?x#y"
    ∃ m hit, (t.resolve path).1 = .ok m ∧ m.chain = ["Shop", "Order"] ∧
      m.params = [("id", "9"), ("tab", "open")] ∧ t.hit? path = some hit ∧
      m.Describes hit.placed (pathSegments path) := by
  intro order shop t path
  obtain ⟨m, hm, hchain, hparams⟩ : ∃ m, (t.resolve path).1 = .ok m ∧ m.chain = ["Shop", "Order"] ∧
      m.params = [("id", "9"), ("tab", "open")] := by
    subst t path shop order
    exact ⟨_, rfl, rfl, rfl⟩
  obtain ⟨hit, hhit, -, hdescribes, -⟩ := resolve_contents hm
  exact ⟨m, hit, hm, hchain, hparams, hhit, hdescribes⟩

end Route

end ConsoleNav
