import ConsoleNav.Address.Reader
import ConsoleNav.Proofs.Menu.RoundTrip
import ConsoleNav.Proofs.Service.Receiving
import ConsoleNav.Proofs.Store.Asking
import ConsoleNav.Proofs.Store.Undisturbed

/-!
Replication: the menu that one instance of the service gives out is taken over by a store whose remote
source asks that instance. The store checks it and commits it as a whole or not at all.
-/
namespace ConsoleNav.Service

open Store

theorem read_menu (a : Address) {menu : List Menu.Entry} (h : (Json.Wire.toJson menu).nesting ≤ 127) :
    Store.Response.read a (.answered 200 (Response.value menu).body) = .ok menu := by
  have hdecode : Json.Wire.decode (Response.value menu).body = .ok menu := Menu.decode_encode h
  simp only [Store.Response.read, hdecode]
  rfl

/-- A menu that has been fetched is committed as it is, or its violations are reported and nothing is
committed. -/
def TakenOver (menu : List Menu.Entry) (before : Snapshot) (answer : Answer) (after : Snapshot) : Prop :=
  if Menu.violations menu = [] then answer = .ok after ∧ after.menu = menu
  else answer = .error (.malformed (Menu.violations menu)) ∧ after = before

theorem takenOver_of_map {menu : List Menu.Entry} {before after : Snapshot} {answer : Answer}
    (hanswer : answer.map Snapshot.menu =
      if Menu.violations menu ≠ [] then .error (.malformed (Menu.violations menu)) else .ok menu)
    (hafter : after = answer.toOption.getD before) : TakenOver menu before answer after := by
  unfold TakenOver
  by_cases hvalid : Menu.violations menu = []
  · rw [if_neg (not_not_intro hvalid)] at hanswer
    rw [if_pos hvalid]
    cases answer with
    | error fault => cases hanswer
    | ok snapshot =>
      rw [hafter]
      exact ⟨rfl, Except.ok.inj hanswer⟩
  · rw [if_pos hvalid] at hanswer
    rw [if_neg hvalid]
    cases answer with
    | error fault =>
      rw [hafter]
      exact ⟨congrArg Except.error (Except.error.inj hanswer), rfl⟩
    | ok snapshot => cases hanswer

section Fetched

variable {l : Load} {timeout waited : Nat} {menu : List Menu.Entry}

theorem verdict_fetched (hfetch : l.fetch = { delay := waited, outcome := some (.ok menu) })
    (hpatient : waited ≤ timeout) :
    l.verdict timeout = (l.begun + waited,
      if Menu.violations menu ≠ [] then .error (.malformed (Menu.violations menu)) else .ok menu) := by
  have hearly : ¬ (timeout < waited ∨ (false = true ∧ timeout = 0)) := by
    rintro (hlate | ⟨hyields, -⟩)
    · omega
    · cases hyields
  rw [Load.verdict, hfetch, if_neg hearly]
  rfl

theorem overtaken_fetched (hfetch : l.fetch = { delay := waited, outcome := some (.ok menu) })
    (hpatient : waited ≤ timeout) (clock : Nat) (race : Race) :
    l.overtaken timeout clock race = .superseded ∨
      clock = l.begun + waited ∧ Menu.violations menu ≠ [] ∧
        l.overtaken timeout clock race = .malformed (Menu.violations menu) := by
  rw [Load.overtaken, verdict_fetched hfetch hpatient]
  by_cases hvalid : Menu.violations menu = []
  · rw [if_neg (not_not_intro hvalid)]
    exact .inl rfl
  · rw [if_pos hvalid]
    by_cases hnow : race = .source ∧ clock = l.begun + waited
    · exact .inr ⟨hnow.2, hvalid, if_pos hnow⟩
    · exact .inl (if_neg hnow)

/-- Once the source has answered and nothing is left to do, the load is over. -/
theorem early_of_isQuiet {s : Store} (hfetch : l.fetch = { delay := waited, outcome := some (.ok menu) })
    (hl : l ∈ s.pending) (hquiet : s.isQuiet) :
    s.generation = l.ticket ∧ s.clock < l.begun + waited := by
  obtain ⟨hnewest, hclock⟩ := isQuiet_iff.mp hquiet l hl
  refine ⟨hnewest, ?_⟩
  by_contra hlate
  have hdue : l.isDue s.clock := by
    rw [Load.isDue_iff, hfetch]
    exact ⟨.inr rfl, Nat.le_of_not_lt hlate⟩
  rw [((lt_wakes_iff l _ _).mp hclock).1] at hdue
  cases hdue

theorem takenOver_of_ended {moments : List Moment} {s : Store} (h : Timely timeout moments s)
    (hstill : Patient s) (hfetch : l.fetch = { delay := waited, outcome := some (.ok menu) })
    (hpatient : waited ≤ timeout) {t : Turn} {newest clock : Nat} {answer : Answer}
    (hended : .ended l newest clock answer ∈ (s.turn t).1) :
    if newest = l.ticket then
      clock = l.begun + waited ∧ TakenOver menu s.snapshot answer (s.turn t).2.snapshot
    else
      l.ticket < newest ∧
        (answer = .error .superseded ∨ clock = l.begun + waited ∧
          Menu.violations menu ≠ [] ∧ answer = .error (.malformed (Menu.violations menu))) ∧
        (s.turn t).2.snapshot = s.snapshot := by
  obtain ⟨-, race, hends⟩ :=
    (h.turn hstill t).ends l newest clock answer (List.mem_append_right _ hended)
  have hsnapshot := turn_snapshot hended (by rw [hfetch])
  rw [Load.EndsAs] at hends
  split at hends
  · next hnewest =>
    rw [verdict_fetched hfetch hpatient] at hends
    rw [if_pos hnewest]
    exact ⟨congrArg Prod.fst hends, takenOver_of_map (congrArg Prod.snd hends) hsnapshot⟩
  · next hnewest =>
    obtain ⟨hnewer, -, rfl⟩ := hends
    rw [if_neg hnewest]
    refine ⟨hnewer, ?_, hsnapshot⟩
    rcases overtaken_fetched hfetch hpatient clock race with hend | ⟨hnow, hviolated, hend⟩
    · exact .inl (by rw [hend])
    · exact .inr ⟨hnow, hviolated, by rw [hend]⟩

theorem takenOver_of_load {moments : List Moment} {s : Store} (h : Timely timeout moments s)
    (hstill : Patient s) (hpatient : waited ≤ timeout)
    (hfetch : s.enter.1.fetch = { delay := waited, outcome := some (.ok menu) }) :
    ∃ answer, s.load.1 = some answer ∧ TakenOver menu s.snapshot answer s.load.2.snapshot ∧
      s.load.2.generation = s.generation + 1 := by
  obtain ⟨answer, hanswer, hmenu, hsnapshot, hgeneration⟩ := load_alone h hstill (by rw [hfetch])
  rw [verdict_fetched hfetch hpatient] at hmenu
  exact ⟨answer, hanswer, takenOver_of_map hmenu hsnapshot, hgeneration⟩

end Fetched

section Loopback

/-- Where an instance on the same machine gives out its menu. -/
def loopback : Address where
  scheme := "http"
  host := some (.v6 [0, 0, 0, 0, 0, 0, 0, 1])
  port := some 9
  path := "/api/v1/menus"

theorem readFromHost?_loopback :
    Address.readFromHost? "http" "[::1]:9/api/v1/menus".toList = some loopback := by
  have hwell : Address.isWellKnown "http" = true := by decide
  have hauthority : "[::1]:9/api/v1/menus".toList.takeWhile (!Address.endsHost true ·) =
      "[::1]:9".toList := by decide
  have huser : Address.splitUser "[::1]:9".toList = none := by decide
  have htake : Address.takeHost true false "[::1]:9/api/v1/menus".toList =
      ("[::1]".toList, ":9/api/v1/menus".toList) := by decide
  have hhost : Address.readHost? true "[::1]".toList = some (.v6 [0, 0, 0, 0, 0, 0, 0, 1]) := by decide
  have hport : Address.takePort? "http" ":9/api/v1/menus".toList =
      some (some 9, "/api/v1/menus".toList) := by decide
  unfold Address.readFromHost?
  rw [hwell]
  dsimp only
  rw [hauthority, huser, htake]
  dsimp only
  rw [if_neg (by simp), hhost]
  simp only [bind, Option.bind]
  rw [hport]
  rfl

theorem read?_loopback :
    Address.ownClient.read? "http://[::1]:9/api/v1/menus" = some loopback := by
  have hscheme : Address.takeScheme? (Address.relevant "http://[::1]:9/api/v1/menus") =
      some ("http", "//[::1]:9/api/v1/menus".toList) := by decide
  have hslashes : "//[::1]:9/api/v1/menus".toList.dropWhile (Address.isSlash true) =
      "[::1]:9/api/v1/menus".toList := by decide
  change Address.read? _ = _
  unfold Address.read?
  rw [hscheme, Option.bind_eq_bind, Option.bind_some]
  dsimp only
  rw [if_neg (by decide), if_pos (by decide), hslashes, readFromHost?_loopback]

theorem address_loopback (retries : Nat) :
    (Remote.ofAddress "http://[::1]:9/api/v1" retries).address = .ok loopback := by
  have hbase : Remote.ofAddress "http://[::1]:9/api/v1" retries =
      ⟨"http://[::1]:9/api/v1", retries, Address.ownClient⟩ := by
    simp [Remote.ofAddress, Text.stripEnd]
  have htext : "http://[::1]:9/api/v1" ++ "/menus" = "http://[::1]:9/api/v1/menus" := by decide
  have hsendable : loopback.isSendable = true := by decide
  rw [hbase, Remote.address, htext]
  dsimp only
  rw [read?_loopback]
  exact if_pos hsendable

end Loopback

/-- Replication between two instances is faithful. -/
theorem replicated {up : App} {request : Request} {r : Remote} {a : Address}
    {lost later : List Store.Response} {timeout : Nat} (hget : request.method = "GET")
    (hpath : Text.pathOf request.target = "/api/v1/menus")
    (hnesting : (Json.Wire.toJson up.store.snapshot.menu).nesting ≤ 127)
    (haddress : r.address = .ok a) (hlost : ∀ x ∈ lost, x.isLost)
    (hretries : lost.length ≤ r.retries) (hpatient : pauses 0 lost.length ≤ timeout) :
    ∃ response : Response, up.receive request = (.response response, up) ∧ response.code = 200 ∧
      let menu := up.store.snapshot.menu
      let waited := pauses 0 lost.length
      let responses := lost ++ .answered response.code response.body :: later
      let fetch := Source.ofReport (r.ask (some timeout) responses)
      r.ask none responses = ⟨lost.length + 1, waited, some (.ok menu), later⟩ ∧
      ∀ source ts,
        let moments := ((fresh source timeout).turns ts).1
        let s := ((fresh source timeout).turns ts).2
        (s.source = .remote r responses →
          (∃ answer, s.load.1 = some answer ∧
            TakenOver menu s.snapshot answer s.load.2.snapshot ∧
            s.load.2.generation = s.generation + 1) ∧
          ∃ others, (s.turn .begin).1 = .begun ⟨s.generation + 1, fetch, s.clock⟩ :: others) ∧
        ∀ l : Load, l.fetch = fetch →
          (.begun l ∈ moments →
            l ∈ s.pending ∨ .aborted l.ticket ∈ moments ∨
              ∃ newest clock answer, .ended l newest clock answer ∈ moments) ∧
          (l ∈ s.pending → s.isQuiet → s.generation = l.ticket ∧ s.clock < l.begun + waited) ∧
          ∀ t newest clock answer, .ended l newest clock answer ∈ (s.turn t).1 →
            if newest = l.ticket then
              clock = l.begun + waited ∧ TakenOver menu s.snapshot answer (s.turn t).2.snapshot
            else
              l.ticket < newest ∧
                (answer = .error .superseded ∨ clock = l.begun + waited ∧
                  Menu.violations menu ≠ [] ∧ answer = .error (.malformed (Menu.violations menu))) ∧
                (s.turn t).2.snapshot = s.snapshot := by
  refine ⟨_, receive_menu up ⟨hget, hpath⟩, rfl, ?_⟩
  intro menu waited responses fetch
  have hread : Store.Response.read a (.answered 200 (Response.value menu).body) = .ok menu :=
    read_menu a hnesting
  have hask (patience : Option Nat) (h : exceeds patience waited = false) :
      r.ask patience responses = ⟨lost.length + 1, waited, some (.ok menu), later⟩ := by
    rw [← hread]
    exact Remote.ask_eq haddress hlost hretries h rfl later
  have hpatience : exceeds (some timeout) waited = false := by
    simp only [exceeds, decide_eq_false_iff_not]
    omega
  have hfetch : fetch = { delay := waited, outcome := some (.ok menu) } := by
    simp only [fetch, hask _ hpatience, Source.ofReport]
  refine ⟨hask none rfl, fun source ts => ?_⟩
  intro moments s
  have h : Timely timeout moments s := timely_turns source timeout ts
  have hstill : Patient s :=
    Patient.turns (ordered_fresh source timeout) (fun hne => absurd rfl hne) ts
  refine ⟨fun hsource => ?_, fun l hl => ⟨h.accounted l, ?_, ?_⟩⟩
  · have hnext : (s.source.next s.timeout).1 = fetch := by
      rw [hsource, h.limit]
      rfl
    refine ⟨takenOver_of_load h hstill hpatient (hnext.trans hfetch), ?_⟩
    rw [← hnext]
    exact begun_begin s
  · exact early_of_isQuiet (hl.trans hfetch)
  · intro t newest clock answer hended
    exact takenOver_of_ended h hstill (hl.trans hfetch) hpatient hended

/-- The built-in menu, given out by an instance to which the first request was lost. -/
theorem replicated_builtIn :
    let up : App := { store := ((fresh (.builtIn none) 5000).set Menu.builtIn).2 }
    let request : Request := { method := "GET", target := "/api/v1/menus" }
    (Json.Wire.toJson up.store.snapshot.menu).nesting ≤ 127 ∧ Menu.violations Menu.builtIn = [] ∧
      ∃ response : Response, up.receive request = (.response response, up) ∧
        let s := fresh (.remote (.ofAddress "http://[::1]:9/api/v1" 1)
          [.dropped, .answered response.code response.body]) 5000
        ∃ snapshot, s.load.1 = some (.ok snapshot) ∧ snapshot.menu = Menu.builtIn ∧
          s.load.2.snapshot = snapshot := by
  intro up request
  have hnesting : (Json.Wire.toJson up.store.snapshot.menu).nesting ≤ 127 := by decide
  have hvalid : Menu.violations up.store.snapshot.menu = [] := by decide
  obtain ⟨response, hreceive, -, -, hruns⟩ := @replicated up request _ loopback [.dropped] [] 5000
    rfl (by decide) hnesting (address_loopback 1) (by decide) (by decide) (by decide)
  refine ⟨hnesting, hvalid, response, hreceive, ?_⟩
  intro s
  obtain ⟨⟨answer, hanswer, htaken, -⟩, -⟩ := (hruns s.source []).1 rfl
  unfold TakenOver at htaken
  rw [if_pos hvalid] at htaken
  exact ⟨s.load.2.snapshot, hanswer.trans (congrArg some htaken.1), htaken.2, rfl⟩

end ConsoleNav.Service
