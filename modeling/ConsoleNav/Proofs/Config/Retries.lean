import ConsoleNav.Proofs.Config.Layering

/-!
The number of retries and the layers of settings. The environment gives it only together with an address,
so unlike the other settings it is not taken from each layer on its own.
-/
namespace ConsoleNav.Config

def Environment.SetsRetries (env : Environment) : UInt32 → Prop :=
  env.SetsNumber "JOB_ADMIN_FETCH_RETRIES" UInt32.toNat

/-- A remote origin has the number of retries that the environment sets. Where it sets none, it has the
number that it had. -/
def RetriesLayered (env : Environment) (c : Config) : Prop :=
  ∀ url retries, ((Layer.ofEnvironment env).onto c).menuOrigin = .remote url retries →
    (∀ n, env.SetsRetries n → retries = n) ∧
    ((∀ n, ¬ env.SetsRetries n) → ∀ before kept, c.menuOrigin = .remote before kept → retries = kept)

variable {env : Environment} {c : Config}

theorem readRetries_eq_some_iff (n : UInt32) :
    env.read "JOB_ADMIN_FETCH_RETRIES" parseRetries = some n ↔ env.SetsRetries n :=
  Environment.read_eq_some_iff parseRetries_eq_some_iff n

theorem retries_eq_of_set {n : UInt32} (h : env.SetsRetries n) :
    (env.read "JOB_ADMIN_FETCH_RETRIES" parseRetries).getD 2 = n := by
  rw [(readRetries_eq_some_iff n).mpr h]
  rfl

theorem retries_eq_of_unset (h : ∀ n, ¬ env.SetsRetries n) :
    (env.read "JOB_ADMIN_FETCH_RETRIES" parseRetries).getD 2 = 2 := by
  have hnone : env.read "JOB_ADMIN_FETCH_RETRIES" parseRetries = none := by
    rw [Option.eq_none_iff_forall_ne_some]
    intro n hn
    exact h n ((readRetries_eq_some_iff n).mp hn)
  rw [hnone]
  rfl

theorem menuOrigin_of_address {url : String} (h : env.lookup "JOB_ADMIN_MENU_URL" = some url) :
    ((Layer.ofEnvironment env).onto c).menuOrigin =
      .remote url ((env.read "JOB_ADMIN_FETCH_RETRIES" parseRetries).getD 2) := by
  simp only [Layer.onto, Layer.ofEnvironment, h]
  rfl

theorem menuOrigin_without_address (h : env.lookup "JOB_ADMIN_MENU_URL" = none) :
    ((Layer.ofEnvironment env).onto c).menuOrigin = c.menuOrigin := by
  simp only [Layer.onto, Layer.ofEnvironment, h]
  rfl

theorem menuOrigin_eq_remote_iff (url : String) (retries : UInt32) :
    ((Layer.ofEnvironment env).onto c).menuOrigin = .remote url retries ↔
      env.lookup "JOB_ADMIN_MENU_URL" = some url ∧ Overlaid env.SetsRetries none 2 retries ∨
        env.lookup "JOB_ADMIN_MENU_URL" = none ∧ c.menuOrigin = .remote url retries := by
  have hretries : Overlaid env.SetsRetries none 2 retries ↔
      (env.read "JOB_ADMIN_FETCH_RETRIES" parseRetries).getD 2 = retries :=
    overlaid_iff readRetries_eq_some_iff 2 retries
  cases hurl : env.lookup "JOB_ADMIN_MENU_URL" with
  | none =>
    rw [menuOrigin_without_address hurl]
    simp
  | some address =>
    rw [menuOrigin_of_address hurl, hretries]
    simp

theorem retriesLayered_iff_of_address {url : String} (h : env.lookup "JOB_ADMIN_MENU_URL" = some url) :
    RetriesLayered env c ↔
      ∀ before kept, c.menuOrigin = .remote before kept → (∀ n, ¬ env.SetsRetries n) → kept = 2 := by
  constructor
  · intro hlayered before kept hbefore hunset
    rw [← (hlayered url _ (menuOrigin_of_address h)).2 hunset before kept hbefore]
    exact retries_eq_of_unset hunset
  · intro hkept address retries horigin
    rw [menuOrigin_of_address h] at horigin
    cases horigin
    refine ⟨fun n => retries_eq_of_set, fun hunset before kept hbefore => ?_⟩
    rw [retries_eq_of_unset hunset, hkept before kept hbefore hunset]

theorem retriesLayered_iff_without_address (h : env.lookup "JOB_ADMIN_MENU_URL" = none) :
    RetriesLayered env c ↔
      ∀ before kept, c.menuOrigin = .remote before kept → ∀ n, env.SetsRetries n → kept = n := by
  unfold RetriesLayered
  rw [menuOrigin_without_address h]
  constructor
  · intro hlayered before kept hbefore
    exact (hlayered before kept hbefore).1
  · intro hkept url retries horigin
    refine ⟨hkept url retries horigin, fun _ before kept hbefore => ?_⟩
    rw [horigin] at hbefore
    cases hbefore
    rfl

/-- What number of retries a remote origin has, and when it follows the layers: always where the origin was
the built-in one. Where it was remote and the environment gives an address, the environment has to set
the retries as well or they have to be two. Where it gives none, what it sets must have been there. -/
theorem retries_layered_exactly_when (env : Environment) (c : Config) :
    (∀ url retries, ((Layer.ofEnvironment env).onto c).menuOrigin = .remote url retries ↔
      env.lookup "JOB_ADMIN_MENU_URL" = some url ∧ Overlaid env.SetsRetries none 2 retries ∨
        env.lookup "JOB_ADMIN_MENU_URL" = none ∧ c.menuOrigin = .remote url retries) ∧
    (RetriesLayered env c ↔ ∀ before kept, c.menuOrigin = .remote before kept →
      if (env.lookup "JOB_ADMIN_MENU_URL").isSome then (∀ n, ¬ env.SetsRetries n) → kept = 2
      else ∀ n, env.SetsRetries n → kept = n) := by
  refine ⟨menuOrigin_eq_remote_iff, ?_⟩
  cases h : env.lookup "JOB_ADMIN_MENU_URL" with
  | none => simpa using retriesLayered_iff_without_address h
  | some url => simpa using retriesLayered_iff_of_address h

/-- The environment sets the retries and they stay as they were; it gives an address alone and the ones
that were there are lost. -/
theorem retries_passed_over :
    ¬ RetriesLayered [("JOB_ADMIN_FETCH_RETRIES", "0")] { menuOrigin := .remote "f" 7 } ∧
    ¬ RetriesLayered [("JOB_ADMIN_MENU_URL", "http://x/v")] { menuOrigin := .remote "f" 7 } := by
  constructor
  · intro hlayered
    have hset : Environment.SetsRetries [("JOB_ADMIN_FETCH_RETRIES", "0")] 0 :=
      (readRetries_eq_some_iff 0).mp (by decide)
    exact absurd ((hlayered "f" 7 rfl).1 0 hset) (by decide)
  · intro hlayered
    have hunset (n : UInt32) : ¬ Environment.SetsRetries [("JOB_ADMIN_MENU_URL", "http://x/v")] n := by
      rintro ⟨text, -, htext, -⟩
      cases htext
    exact absurd ((hlayered "http://x/v" 2 rfl).2 hunset "f" 7 rfl) (by decide)

end ConsoleNav.Config
