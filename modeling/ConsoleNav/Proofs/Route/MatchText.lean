import ConsoleNav.Proofs.Json.Reading
import ConsoleNav.Proofs.Keyed
import ConsoleNav.Proofs.Keys
import ConsoleNav.Route.Wire

/-!
Matches are read back from their texts. Their parameters are an object whose keys are in order, and are
read into an ordered list member by member.
-/
namespace ConsoleNav.Route

open Json

section Records

def ResolvedView.shape : Shape ResolvedView where
  blank := ⟨"", ""⟩
  fields := [
    .of "component" .always readString fun s v => { v with component := s },
    .of "chunk" .always readString fun s v => { v with chunk := s }]

theorem ResolvedView.recovers (v : ResolvedView) {size depth : Nat} (h : Fits size depth v.toJson) :
    Recovers (ResolvedView.reader size depth) v.toJson v := by
  obtain ⟨d, rfl, hfew, -⟩ := h.members
  obtain ⟨component, chunk⟩ := v
  have hcomponent : shape.Fills shape.blank [("component", .string component)] ⟨component, ""⟩ :=
    .single (fun s (v : ResolvedView) => { v with component := s }) rfl (recovers_string component) _
  have hchunk : shape.Fills ⟨component, ""⟩ [("chunk", .string chunk)] ⟨component, chunk⟩ :=
    .single (fun s (v : ResolvedView) => { v with chunk := s }) rfl (recovers_string chunk) _
  refine (hcomponent.append hchunk).recovers (by simp) ?_ hfew _
  simp [shape, Field.of]

def MatchedRoute.shape : Shape MatchedRoute where
  blank := ⟨"", "", ""⟩
  fields := [
    .of "path" .always readString fun s m => { m with path := s },
    .of "name" .always readString fun s m => { m with name := s },
    .of "component" .always readString fun s m => { m with component := s }]

theorem MatchedRoute.recovers (m : MatchedRoute) {size depth : Nat} (h : Fits size depth m.toJson) :
    Recovers (MatchedRoute.reader size depth) m.toJson m := by
  obtain ⟨d, rfl, hfew, -⟩ := h.members
  obtain ⟨path, name, component⟩ := m
  have hpath : shape.Fills shape.blank [("path", .string path)] ⟨path, "", ""⟩ :=
    .single (fun s (m : MatchedRoute) => { m with path := s }) rfl (recovers_string path) _
  have hname : shape.Fills ⟨path, "", ""⟩ [("name", .string name)] ⟨path, name, ""⟩ :=
    .single (fun s (m : MatchedRoute) => { m with name := s }) rfl (recovers_string name) _
  have hcomponent : shape.Fills ⟨path, name, ""⟩ [("component", .string component)]
      ⟨path, name, component⟩ :=
    .single (fun s (m : MatchedRoute) => { m with component := s }) rfl (recovers_string component) _
  refine ((hpath.append hname).append hcomponent).recovers (by simp) ?_ hfew _
  simp [shape, Field.of]

end Records

section Texts

variable {ps : List (String × String)}

/-- One member of an object of texts. -/
def readText (key : String) (m : List (String × String)) : Reader (List (String × String)) := fun cs => do
  let (s, cs) ← readMember key readString cs
  .ok (Keyed.insert key s m, cs)

theorem readsMember_text (key s : String) (m : List (String × String)) (st : Style) (level : Nat) :
    ReadsMember (readText key m) (spell st level (.string s)) (Keyed.insert key s m) := by
  intro mid rest hmid hrest
  have hread : Reads readString (spell st level (.string s)) s := recovers_string s st level
  simp only [readText, hread.member key mid rest hmid hrest, bind, Except.bind]

theorem readTexts_object {size depth : Nat} {cs rest : List Char} (h : skipGap cs = '\x7b' :: rest) :
    readTexts size (depth + 1) cs = (do
      let (m, rest) ← readMembers readText size true [] rest
      .ok (m, ← here (closeObject rest))) := by
  simp only [readTexts, h]
  exact if_neg (Nat.add_one_ne_zero depth)

theorem recovers_texts (h : Keyed.IsOrdered ps) {size depth : Nat} (hfew : ps.length < size) :
    Recovers (readTexts size (depth + 1)) (.object (ps.map fun p => (p.1, .string p.2))) ps := by
  intro st level gap rest hgap _
  have hmembers := membersText_spell st level true (ps.map fun p => (p.1, Json.string p.2))
  rw [List.map_map] at hmembers
  have hcollects : Collects readText []
      (ps.map fun p => (escape p.1.toList, spell st (level + 1) (.string p.2))) ps :=
    collects_ordered (f := id) (t := fun s => spell st (level + 1) (.string s)) h fun p _ m =>
      readsMember_text p.1 p.2 m st (level + 1)
  obtain ⟨mid, hread, hclose⟩ := readMembers_of_text hmembers hcollects (by rwa [List.length_map]) rest
  have hbrace (cs : List Char) : skipGap (gap ++ '\x7b' :: cs) = '\x7b' :: cs := skipGap_gap_cons hgap rfl cs
  rw [spell, List.cons_append, readTexts_object (hbrace _), hread]
  simp only [hclose, here, bind, Except.bind]

end Texts

namespace RouteMatch

/-- The fields of a match, whose values are nested at most `depth` deep. -/
def shape (size depth : Nat) : Shape RouteMatch where
  blank := ⟨"", "", [], [], ⟨"", ""⟩⟩
  fields := [
    .of "path" .always readString fun s m => { m with path := s },
    .of "name" .always readString fun s m => { m with name := s },
    .of "matched" .always (Wire.reader size depth) fun ms m => { m with matched := ms },
    .of "params" .always (readTexts size depth) fun ps m => { m with params := ps },
    .of "view" .always (ResolvedView.reader size depth) fun v m => { m with view := v }]

theorem fills {size depth : Nat} {m : RouteMatch}
    (hmatched : Recovers (Wire.reader size depth) (.array (m.matched.map MatchedRoute.toJson)) m.matched)
    (hparams : Recovers (readTexts size depth) (.object (m.params.map fun p => (p.1, .string p.2))) m.params)
    (hview : Recovers (ResolvedView.reader size depth) m.view.toJson m.view) :
    (shape size depth).Fills (shape size depth).blank
      [("path", .string m.path), ("name", .string m.name),
        ("matched", .array (m.matched.map MatchedRoute.toJson)),
        ("params", .object (m.params.map fun p => (p.1, .string p.2))), ("view", m.view.toJson)] m := by
  obtain ⟨path, name, matched, params, view⟩ := m
  have hpath : (shape size depth).Fills (shape size depth).blank [("path", .string path)]
      ⟨path, "", [], [], ⟨"", ""⟩⟩ :=
    .single (fun s (m : RouteMatch) => { m with path := s }) rfl (recovers_string path) _
  have hname : (shape size depth).Fills ⟨path, "", [], [], ⟨"", ""⟩⟩ [("name", .string name)]
      ⟨path, name, [], [], ⟨"", ""⟩⟩ :=
    .single (fun s (m : RouteMatch) => { m with name := s }) rfl (recovers_string name) _
  have hmatched : (shape size depth).Fills ⟨path, name, [], [], ⟨"", ""⟩⟩
      [("matched", .array (matched.map MatchedRoute.toJson))] ⟨path, name, matched, [], ⟨"", ""⟩⟩ :=
    .single (fun ms (m : RouteMatch) => { m with matched := ms }) rfl hmatched _
  have hparams : (shape size depth).Fills ⟨path, name, matched, [], ⟨"", ""⟩⟩
      [("params", .object (params.map fun p => (p.1, .string p.2)))]
      ⟨path, name, matched, params, ⟨"", ""⟩⟩ :=
    .single (fun ps (m : RouteMatch) => { m with params := ps }) rfl hparams _
  have hview : (shape size depth).Fills ⟨path, name, matched, params, ⟨"", ""⟩⟩
      [("view", view.toJson)] ⟨path, name, matched, params, view⟩ :=
    .single (fun v (m : RouteMatch) => { m with view := v }) rfl hview _
  exact (((hpath.append hname).append hmatched).append hparams).append hview

/-- A match whose parameters are in the order of their names is got back. -/
theorem recovers {m : RouteMatch} (h : Keyed.IsOrdered m.params) {size depth : Nat}
    (hfits : Fits size depth m.toJson) : Recovers (RouteMatch.reader size depth) m.toJson m := by
  obtain ⟨d, rfl, hfew, hparts⟩ := hfits.members
  simp only [List.forall_mem_cons] at hparts
  obtain ⟨-, -, hmatched, hparams, hview, -⟩ := hparts
  obtain ⟨e, rfl, hshort, hitems⟩ := hmatched.items
  obtain ⟨e', heq, hlittle, -⟩ := hparams.members
  cases heq
  rw [List.length_map] at hshort hlittle
  have hrecovers : Recovers (Wire.reader size (e + 1)) (.array (m.matched.map MatchedRoute.toJson))
      m.matched := by
    refine recovers_list (fun r hr => ⟨opens_object _, ?_⟩) hshort
    exact r.recovers (hitems _ (List.mem_map_of_mem hr))
  refine (fills hrecovers (recovers_texts h hlittle) (ResolvedView.recovers _ hview)).recovers (by simp) ?_
    hfew _
  simp [shape, Field.of]

theorem nesting_toJson_le (m : RouteMatch) : m.toJson.nesting ≤ 3 := by
  have hmatched : nestingItems (m.matched.map MatchedRoute.toJson) ≤ 1 := by
    rw [nestingItems_le]
    intro v hv
    obtain ⟨r, -, rfl⟩ := List.mem_map.mp hv
    exact Nat.le_refl 1
  have hparams : nestingMembers (m.params.map fun p => (p.1, .string p.2)) ≤ 0 := by
    rw [nestingMembers_le]
    intro p hp
    obtain ⟨q, -, rfl⟩ := List.mem_map.mp hp
    exact Nat.le_refl 0
  simp only [toJson, ResolvedView.toJson, nesting, nestingMembers]
  omega

theorem decode_encode {m : RouteMatch} (h : Keyed.IsOrdered m.params) : Wire.decode (Wire.encode m) = .ok m :=
  readWhole_compact (Nat.le_trans m.nesting_toJson_le (by decide : 3 ≤ depthLimit)) fun _ => recovers h

end RouteMatch

theorem Hit.isOrdered_params (path : String) (hit : Hit) : Keyed.IsOrdered (hit.toMatch path).params :=
  Keyed.isOrdered_ofList hit.captures

end ConsoleNav.Route
