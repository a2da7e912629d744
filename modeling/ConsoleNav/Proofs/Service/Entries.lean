import ConsoleNav.Proofs.Menu.Validation
import ConsoleNav.Proofs.Menu.RoundTrip
import ConsoleNav.Proofs.Service.Addressing
import ConsoleNav.Proofs.Text.Escaping
import ConsoleNav.Service.App

/-!
Entries by their ids: whoever asks for an entry under its id, escaped as one segment of a path, gets this
entry with all that lies below it. The segments of the endpoints next to the entries are theirs alone.
-/
namespace ConsoleNav.Service

open Json

/-- The path of an entry. -/
def entryPath (id : String) : String :=
  "/api/v1/menus/" ++ Text.escapeSegment id

theorem entryPath_eq (id : String) : entryPath id =
    String.ofList ('/' :: ("api/v1/menus/".toList ++ (Text.escapeSegment id).toList)) := by
  rw [← String.toList_inj]
  simp [entryPath]

theorem pathOf_entryPath (id : String) : Text.pathOf (entryPath id) = entryPath id := by
  rw [entryPath_eq]
  apply Text.pathOf_eq
  · rw [List.mem_append, not_or]
    exact ⟨by decide, Text.not_mem_escapeSegment (by decide) id⟩
  · rw [List.mem_append, not_or]
    exact ⟨by decide, Text.not_mem_escapeSegment (by decide) id⟩

theorem entryPath_eq_path (id : String) :
    entryPath id = (Endpoint.entry (Text.escapeSegment id)).path := by
  rw [← String.toList_inj, Endpoint.path, String.toList_intercalate, entryPath, String.toList_append]
  simp [Endpoint.segments, List.intercalate_cons_cons]

theorem endpoint_entryPath {id : String} (hne : id ≠ "") (hload : id ≠ "load")
    (hstatus : id ≠ "status") :
    Endpoint.ofPath? (entryPath id) = some (.entry (Text.escapeSegment id)) := by
  have hplain {other : String} (hother : Text.escapeSegment other = other) (h : id ≠ other) :
      Text.escapeSegment id ≠ other := by
    intro hsame
    exact h (Text.escapeSegment_inj (hsame.trans hother.symm))
  rw [Endpoint.ofPath?_eq_iff]
  · exact entryPath_eq_path id
  · refine ⟨?_, Text.not_mem_escapeSegment (by decide) id, ?_, ?_⟩
    · exact hplain (by decide) hne
    · exact hplain (by decide) hload
    · exact hplain (by decide) hstatus

section Receiving

variable {app : App} {r : Request} {id : String}

theorem receive_entry (hget : r.method = "GET") (hpath : Text.pathOf r.target = entryPath id)
    (hne : id ≠ "") (hload : id ≠ "load") (hstatus : id ≠ "status") :
    app.receive r = (.response (app.entryResponse (Text.escapeSegment id)), app) := by
  have hendpoint := endpoint_entryPath hne hload hstatus
  rw [← hpath] at hendpoint
  simp [App.receive, hendpoint, hget, Endpoint.methods, App.answer]

theorem entryResponse_found {e : Menu.Entry} (h : app.store.find? id = some e) :
    app.entryResponse (Text.escapeSegment id) = .value e := by
  rw [App.entryResponse, Text.percentDecode?_escapeSegment]
  simp only [h]

theorem entryResponse_missing (h : app.store.find? id = none) :
    app.entryResponse (Text.escapeSegment id) = .text 404 "Menu entry not found" := by
  rw [App.entryResponse, Text.percentDecode?_escapeSegment]
  simp only [h]

end Receiving

/-- Every entry of a menu of the right shape is found by its id, unless this is that of an endpoint. -/
theorem entry_reachable (app : App) (h : Menu.isValid app.store.snapshot.menu) :
    ∀ (r : Request) (id : String), r.method = "GET" → Text.pathOf r.target = entryPath id →
      id ≠ "load" → id ≠ "status" →
        (∀ e ∈ Menu.entries app.store.snapshot.menu, e.id = id →
          ∃ response, app.receive r = (.response response, app) ∧ response.code = 200 ∧
            Denotes response.body e) ∧
        (id ≠ "" → (∀ e ∈ Menu.entries app.store.snapshot.menu, e.id ≠ id) →
          ∃ response, app.receive r = (.response response, app) ∧ response.code = 404) := by
  intro r id hget hpath hload hstatus
  constructor
  · rintro e he rfl
    have hne : e.id ≠ "" := by
      intro hempty
      exact (Menu.isValid_iff.mp h).named e he hempty
    have hfind : app.store.find? e.id = some e := Menu.find?_of_mem_entries h he
    refine ⟨_, receive_entry hget hpath hne hload hstatus, ?_, ?_⟩
    · rw [entryResponse_found hfind]
      rfl
    · rw [entryResponse_found hfind]
      exact e.denotes
  · intro hne hnone
    have hfind : app.store.find? id = none := Menu.find?_eq_none_iff.mpr hnone
    refine ⟨_, receive_entry hget hpath hne hload hstatus, ?_⟩
    rw [entryResponse_missing hfind]
    rfl

/-- An entry below another one, whose id is made of what addresses have for purposes of their own. -/
theorem entry_reachable_below :
    let child : Menu.Entry := { id := "a/ü %", name := "Child", parent := some "A" }
    let menu : List Menu.Entry := [{ id := "A", name := "B", childList := some [child] }]
    let app : App := { store := ((Store.fresh (.builtIn none) 5000).set menu).2 }
    let request : Request := { method := "GET", target := entryPath child.id }
    Menu.isValid app.store.snapshot.menu ∧ entryPath child.id = "/api/v1/menus/a%2F%C3%BC%20%25" ∧
      ∃ response, app.receive request = (.response response, app) ∧ response.code = 200 ∧
        Denotes response.body child := by
  intro child menu app request
  have hvalid : Menu.isValid app.store.snapshot.menu := by decide
  have hmem : child ∈ Menu.entries app.store.snapshot.menu := .tail _ (.head _)
  have hfound := (entry_reachable app hvalid request child.id rfl (pathOf_entryPath _)
    (by decide) (by decide)).1
  exact ⟨hvalid, by decide, hfound child hmem rfl⟩

/-- An entry whose id is that of an endpoint is not found, and an endpoint answers where no entry is. -/
theorem entry_hidden_by_endpoint :
    let entry : Menu.Entry := { id := "load", name := "L" }
    let app : App := { store := ((Store.fresh (.builtIn none) 5000).set [entry]).2 }
    let request (id : String) : Request := { method := "GET", target := entryPath id }
    Menu.isValid app.store.snapshot.menu ∧ Menu.entries app.store.snapshot.menu = [entry] ∧
      app.receive (request "load") =
        (.response { Response.empty 405 with allow := some "POST" }, app) ∧
      app.receive (request "status") = (.response (.value app.store.status), app) ∧
      (Response.value app.store.status).code = 200 := by
  intro entry app request
  have hload : Endpoint.ofPath? (Text.pathOf (request "load").target) = some .load := by decide
  have hstatus : Endpoint.ofPath? (Text.pathOf (request "status").target) = some .status := by decide
  refine ⟨by decide, rfl, ?_, ?_, rfl⟩
  · simp [App.receive, hload, request, Endpoint.methods, Endpoint.allow]
  · simp [App.receive, hstatus, request, Endpoint.methods, App.answer]

end ConsoleNav.Service
