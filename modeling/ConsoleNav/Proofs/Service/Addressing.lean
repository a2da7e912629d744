import ConsoleNav.Proofs.Text.Splitting
import ConsoleNav.Service.Endpoint

/-!
Which path belongs to which endpoint. Every endpoint has one path, and a path leads to an entry only if
it does not lead to one of the other endpoints next to it.
-/
namespace ConsoleNav

namespace Service.Endpoint

def segments : Endpoint → List String
  | .health => ["health"]
  | .menu => ["menus"]
  | .load => ["menus", "load"]
  | .status => ["menus", "status"]
  | .entry id => ["menus", id]
  | .routes => ["routes"]
  | .filter => ["routes", "filter"]
  | .resolve => ["routes", "resolve"]

def path (e : Endpoint) : String :=
  "/".intercalate ("" :: "api" :: "v1" :: e.segments)

/-- An entry is found under its id, in its escaped form, if this is one segment and not that of another
endpoint. -/
def isAddressed : Endpoint → Prop
  | .entry id => id ≠ "" ∧ '/' ∉ id.toList ∧ id ≠ "load" ∧ id ≠ "status"
  | .health | .menu | .load | .status | .routes | .filter | .resolve => True

theorem segments_of_some {segments : List String} {e : Endpoint}
    (h : ofSegments? segments = some e) : segments = e.segments := by
  unfold ofSegments? at h
  split at h
  · cases h
    rfl
  · cases h
    rfl
  · split at h
    · cases h
      simp_all [Endpoint.segments]
    · split at h
      · cases h
        simp_all [Endpoint.segments]
      · split at h
        · cases h
        · cases h
          rfl
  · cases h
    rfl
  · split at h
    · cases h
      simp_all [Endpoint.segments]
    · split at h
      · cases h
        simp_all [Endpoint.segments]
      · cases h
  · cases h

theorem ofSegments?_segments {e : Endpoint} (h : e.isAddressed) :
    ofSegments? e.segments = some e := by
  cases e with
  | entry id =>
    obtain ⟨hne, -, hload, hstatus⟩ := h
    simp [segments, ofSegments?, hne, hload, hstatus]
  | health | menu | load | status | routes | filter | resolve => rfl

theorem eq_path {p : String} {e : Endpoint} (h : ofPath? p = some e) : p = e.path := by
  unfold ofPath? at h
  split at h
  · rename_i segments hparts
    have hsegments := segments_of_some h
    rw [← String.toList_inj, path, String.toList_intercalate, ← hsegments, ← hparts, List.map_map]
    have hid : String.toList ∘ String.ofList = id := by
      funext cs
      exact String.toList_ofList
    rw [hid, List.map_id]
    exact (Text.intercalate_splitAt '/' p.toList).symm
  · cases h

theorem ofPath?_path {e : Endpoint} (h : e.isAddressed) : ofPath? e.path = some e := by
  have hslash : ∀ part ∈ ("" :: "api" :: "v1" :: e.segments).map String.toList, '/' ∉ part := by
    cases e with
    | entry id =>
      obtain ⟨-, hslash, -, -⟩ := h
      simp [segments, hslash]
    | health | menu | load | status | routes | filter | resolve => simp [segments]
  have hsplit : Text.splitAt '/' e.path.toList =
      ("" :: "api" :: "v1" :: e.segments).map String.toList := by
    rw [path, String.toList_intercalate]
    exact Text.splitAt_intercalate (List.cons_ne_nil _ _) hslash
  have hid : String.ofList ∘ String.toList = id := by
    funext s
    exact String.ofList_toList
  rw [ofPath?, hsplit, List.map_map, hid, List.map_id]
  exact ofSegments?_segments h

theorem ofPath?_eq_iff {e : Endpoint} (h : e.isAddressed) (p : String) :
    ofPath? p = some e ↔ p = e.path := by
  constructor
  · exact eq_path
  · rintro rfl
    exact ofPath?_path h

end Service.Endpoint

end ConsoleNav
