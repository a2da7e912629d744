import ConsoleNav.CommandLine.Run
import ConsoleNav.Proofs.Service.Navigation

/-!
Paths resolved on the command line and by the service. Both look into the same table, which no setting
changes, and both say the same of what they find.
-/
namespace ConsoleNav.CommandLine

open Json Route Service

variable {arguments : List String} {path : String}

/-- The outcome for what comes of resolving a path. -/
def navigationOutcome : Except NotFound RouteMatch → Outcome
  | .ok m => .printed (matchLine m)
  | .error fault => .failed fault.message

theorem resolve_cases (t : Table) (path : String) :
    (t.resolve path).1 = .error ⟨normalizePath path⟩ ∨
      ∃ hit : Hit, (t.resolve path).1 = .ok (hit.toMatch path) := by
  unfold Table.resolve
  cases t.hit? path with
  | none => exact .inl rfl
  | some hit => exact .inr ⟨hit, rfl⟩

section Client

variable [Address.Client]

theorem run_resolve (occupied : List UInt16) (c : Config) (path : String) :
    run occupied c (.resolve path) = navigationOutcome (Table.builtIn.resolve path).1 := by
  have htable : (App.ofConfig c).table = .builtIn := rfl
  rw [run, htable]
  cases (Table.builtIn.resolve path).1 with
  | ok | error => rfl

/-- Settings are read, and then not looked at. -/
theorem runArguments_resolve (h : Command.ofArguments? arguments = some (.resolve path))
    (occupied : List UInt16) (file : Option (List UInt8)) (env : Config.Environment) :
    runArguments occupied file env arguments = navigationOutcome (Table.builtIn.resolve path).1 := by
  rw [runArguments, h]
  exact run_resolve occupied _ path

theorem receive_bootstrapped (c : Config) (steps : List Service.Step) {r : Request}
    (hget : r.method = "GET") (htarget : r.target = resolveTarget path) :
    ((Session.after ⟨App.ofConfig c, []⟩ steps).app.receive r).1 =
      .response (navigationResponse (Table.builtIn.resolve path).1) := by
  have htable : (App.ofConfig c).table = .builtIn := rfl
  rw [receive_resolve _ hget htarget, resolve_after, htable]

/-- The command line resolves a path as the service does, whatever the settings of the one and of the
other, and whatever has been asked of the service before. -/
theorem resolves_alike (h : Command.ofArguments? arguments = some (.resolve path)) :
    ∃ outcome : Outcome,
      (∀ occupied file env, runArguments occupied file env arguments = outcome) ∧
      ∀ (c : Config) (steps : List Service.Step) (r : Request),
        r.method = "GET" → r.target = resolveTarget path →
          ∃ response, ((Session.after ⟨App.ofConfig c, []⟩ steps).app.receive r).1 = .response response ∧
            (outcome.code = 0 ↔ response.code = 200) ∧
            (response.code = 200 → ∃ m : RouteMatch, Wire.decode response.body = .ok m ∧
              outcome.output = m.path ++ " -> " ++ " > ".intercalate (m.matched.map MatchedRoute.name) ++
                " (" ++ m.view.chunk ++ ")\n" ∧
              outcome.failure? = none) ∧
            (response.code ≠ 200 →
              response.code = 404 ∧ response.body = NotFound.message ⟨normalizePath path⟩ ∧
              outcome.code = 1 ∧ outcome.output = "" ∧
              outcome.failure? = some response.body) := by
  refine ⟨_, runArguments_resolve h, fun c steps r hget htarget =>
    ⟨_, receive_bootstrapped c steps hget htarget, ?_⟩⟩
  obtain hnone | ⟨hit, hhit⟩ := resolve_cases .builtIn path
  · have hfailed : (navigationOutcome (.error ⟨normalizePath path⟩)).code = 1 := rfl
    have hmissing : (navigationResponse (.error ⟨normalizePath path⟩)).code = 404 := rfl
    rw [hnone, hfailed, hmissing]
    exact ⟨by decide, fun h => absurd h (by decide), fun _ => ⟨rfl, rfl, rfl, rfl, rfl⟩⟩
  · rw [hhit]
    refine ⟨⟨fun _ => rfl, fun _ => rfl⟩, fun _ => ⟨hit.toMatch path, ?_, rfl, rfl⟩, fun h => absurd rfl h⟩
    exact RouteMatch.decode_encode (hit.isOrdered_params path)

end Client

/-- A path with a query of its own, which is escaped where it stands within another one. -/
theorem resolves_alike_home :
    let path := "home/?from=all menus"
    Command.ofArguments? ["resolve", path] = some (.resolve path) ∧
      resolveTarget path = "/api/v1/routes/resolve?path=home%2F%3Ffrom%3Dall+menus" ∧
      ∃ response, ((App.ofConfig {}).receive { method := "GET", target := resolveTarget path }).1 =
        .response response ∧ response.code = 200 ∧
        (runArguments [] none [] ["resolve", path]).code = 0 := by
  intro path
  have hresolve : Command.ofArguments? ["resolve", path] = some (.resolve path) := by decide
  obtain ⟨outcome, hrun, hreceive⟩ := resolves_alike hresolve
  obtain ⟨response, hresponse, hcode, -⟩ :=
    hreceive {} [] { method := "GET", target := resolveTarget path } rfl rfl
  have hok : (runArguments [] none [] ["resolve", path]).code = 0 := by decide
  refine ⟨hresolve, by decide, response, hresponse, hcode.mp ?_, hok⟩
  rw [← hrun [] none []]
  exact hok

end ConsoleNav.CommandLine
