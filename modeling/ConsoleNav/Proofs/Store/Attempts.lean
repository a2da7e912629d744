import ConsoleNav.Proofs.Store.Retrying

/-!
The attempts to get a menu from a remote source, one after the other: every request and every pause, with
the attempts counted in 32 bits. The bits are always enough, and what comes of the attempts is what comes
of asking the source.
-/
namespace ConsoleNav.Store

/-- A number of 32 bits, unless these are too few for it. -/
def word? (n : Nat) : Option UInt32 :=
  if n < UInt32.size then some (UInt32.ofNat n) else none

/-- The number of the attempt after number `attempt`. -/
def nextAttempt? (attempt : UInt32) : Option UInt32 :=
  word? (attempt.toNat + 1)

/-- The pause in milliseconds after attempt number `attempt`. -/
def pause? (attempt : UInt32) : Option Nat :=
  (word? (Nat.pow 2 (min attempt.toNat 6))).map fun factor => 200 * factor.toNat

/-- Something done to get a menu: a request with the method GET, or a pause. -/
inductive Act where
  | get (a : Address)
  | pause (millis : Nat)

/-- What was done, in order, what came of it in the end, and the responses left. -/
structure Log where
  acts : List Act
  outcome : Except FetchFault (List Menu.Entry)
  responses : List Response

def Act.request? : Act → Option Address
  | .get a => some a
  | .pause _ => none

def Act.millis : Act → Nat
  | .get _ => 0
  | .pause millis => millis

def Log.requests (log : Log) : List Address :=
  log.acts.filterMap Act.request?

def Log.waited (log : Log) : Nat :=
  (log.acts.map Act.millis).sum

/-- The log of what comes after `acts`, with these before it. -/
def Log.after (acts : List Act) (log : Log) : Log :=
  { log with acts := acts ++ log.acts }

theorem Log.after_after (acts more : List Act) :
    Log.after acts ∘ Log.after more = Log.after (acts ++ more) := by
  funext log
  exact congrArg (Log.mk · log.outcome log.responses) (List.append_assoc acts more log.acts).symm

/-- What one attempt does: nothing where there is no address for a request. -/
def Remote.acts (r : Remote) : List Act :=
  match r.address with
  | .error _ => []
  | .ok a => [.get a]

theorem nextAttempt?_eq_some {attempt next : UInt32} (h : nextAttempt? attempt = some next) :
    next.toNat = attempt.toNat + 1 := by
  unfold nextAttempt? word? at h
  split at h
  · next hlt =>
    cases h
    exact UInt32.toNat_ofNat_of_lt' hlt
  · cases h

/-- The attempts from number `attempt` on. There is no log where a number has not enough bits. -/
def Remote.attemptFrom? (r : Remote) (retries attempt : UInt32) (responses : List Response) :
    Option Log :=
  let (outcome, _, rest) := r.attempt responses
  match outcome with
  | .error (.unreachable reason) =>
    if attempt < retries then
      match pause? attempt, hnext : nextAttempt? attempt with
      | some millis, some next =>
        (r.attemptFrom? retries next rest).map (Log.after (r.acts ++ [.pause millis]))
      | _, _ => none
    else some ⟨r.acts, .error (.unreachable reason), rest⟩
  | outcome => some ⟨r.acts, outcome, rest⟩
termination_by retries.toNat - attempt.toNat
decreasing_by
  have hlt : attempt.toNat < retries.toNat := UInt32.lt_iff_toNat_lt.mp ‹_›
  have := nextAttempt?_eq_some hnext
  omega

/-! ### The bits are enough -/

section Words

variable {attempt retries : UInt32}

theorem exists_nextAttempt? (h : attempt < retries) :
    ∃ next, nextAttempt? attempt = some next ∧ next.toNat = attempt.toNat + 1 := by
  have hlt : attempt.toNat < retries.toNat := UInt32.lt_iff_toNat_lt.mp h
  have hsize := retries.toNat_lt_size
  have hnext : nextAttempt? attempt = some (UInt32.ofNat (attempt.toNat + 1)) :=
    if_pos (by omega)
  exact ⟨_, hnext, nextAttempt?_eq_some hnext⟩

theorem pause?_eq (attempt : UInt32) : pause? attempt = some (backoff attempt.toNat) := by
  have hpower : Nat.pow 2 (min attempt.toNat 6) < UInt32.size :=
    Nat.lt_of_le_of_lt (Nat.pow_le_pow_right (by decide) (Nat.min_le_right _ 6)) (by decide)
  rw [pause?, word?, if_pos hpower, Option.map_some, UInt32.toNat_ofNat_of_lt' hpower]
  rfl

end Words

/-! ### What comes of the attempts -/

section Asking

variable {r : Remote} {retries attempt : UInt32} {responses : List Response}

theorem Remote.exists_attempt (r : Remote) (responses : List Response) :
    ∃ outcome rest, r.attempt responses = (outcome, r.acts.length, rest) := by
  unfold Remote.attempt Remote.acts
  cases r.address with
  | error fault => exact ⟨_, _, rfl⟩
  | ok a => cases responses <;> exact ⟨_, _, rfl⟩

/-- The request of an attempt that is made again, and the pause before the next one. -/
def Remote.failedActs (r : Remote) (attempt : Nat) : List Act :=
  r.acts ++ [.pause (backoff attempt)]

theorem Remote.attemptFrom?_retry {reason : String} {rest : List Response} {made : Nat}
    (h : r.attempt responses = (.error (.unreachable reason), made, rest)) (hlt : attempt < retries)
    {next : UInt32} (hnext : nextAttempt? attempt = some next) :
    r.attemptFrom? retries attempt responses =
      (r.attemptFrom? retries next rest).map (Log.after (r.failedActs attempt.toNat)) := by
  rw [Remote.attemptFrom?, h]
  dsimp only
  rw [if_pos hlt, pause?_eq]
  split
  · next hpause hsome =>
    cases hpause
    cases hnext.symm.trans hsome
    rfl
  · next hnone => exact absurd hnext (hnone _ _ rfl)

theorem Remote.attemptFrom?_stop {outcome : Except FetchFault (List Menu.Entry)}
    {rest : List Response} {made : Nat} (h : r.attempt responses = (outcome, made, rest))
    (hstop : ∀ reason, outcome = .error (.unreachable reason) → ¬ attempt < retries) :
    r.attemptFrom? retries attempt responses = some ⟨r.acts, outcome, rest⟩ := by
  rw [Remote.attemptFrom?, h]
  dsimp only
  split
  · next reason => rw [if_neg (hstop reason rfl)]
  · rfl

/-- What a log comes to, with the requests and the pauses before it. -/
def Log.report (requests waited : Nat) (log : Log) : Report :=
  ⟨requests + log.requests.length, waited + log.waited, some log.outcome, log.responses⟩

theorem Remote.report_acts (r : Remote) (requests waited : Nat)
    (outcome : Except FetchFault (List Menu.Entry)) (rest : List Response) :
    Log.report requests waited ⟨r.acts, outcome, rest⟩ =
      ⟨requests + r.acts.length, waited, some outcome, rest⟩ := by
  unfold Log.report Log.requests Log.waited Remote.acts
  cases r.address <;> rfl

theorem Remote.millis_failedActs (r : Remote) (attempt : Nat) :
    ((r.failedActs attempt).map Act.millis).sum = backoff attempt := by
  unfold Remote.failedActs Remote.acts
  cases r.address with
  | error fault => exact Nat.add_zero _
  | ok a => exact (Nat.zero_add _).trans (Nat.add_zero _)

theorem Remote.report_after (r : Remote) (requests waited attempt : Nat) (log : Log) :
    (log.after (r.failedActs attempt)).report requests waited =
      log.report (requests + r.acts.length) (waited + backoff attempt) := by
  have hrequests : (r.failedActs attempt).filterMap Act.request? = r.acts.filterMap Act.request? := by
    rw [Remote.failedActs, List.filterMap_append]
    exact List.append_nil _
  have hlength : (r.acts.filterMap Act.request?).length = r.acts.length := by
    unfold Remote.acts
    cases r.address <;> rfl
  simp only [Log.report, Log.requests, Log.waited, Log.after, List.filterMap_append, List.map_append,
    List.sum_append, List.length_append, hrequests, Remote.millis_failedActs, hlength, Nat.add_assoc]

/-- Attempts counted in 32 bits never run out of bits, and they come to what asking the source comes to. -/
theorem Remote.exists_attemptFrom? (r : Remote) (attempt : UInt32) {left : Nat}
    (hleft : attempt.toNat + left = retries.toNat) (responses : List Response) :
    ∃ log, r.attemptFrom? retries attempt responses = some log ∧ ∀ requests waited,
      r.askFrom none left attempt.toNat requests waited responses = log.report requests waited := by
  -- the number of the attempt and how many are left always add up to the retries
  induction left generalizing attempt responses with
  | zero =>
    obtain ⟨outcome, rest, hattempt⟩ := r.exists_attempt responses
    have hlast : ¬ attempt < retries := by
      rw [UInt32.lt_iff_toNat_lt]
      omega
    refine ⟨_, Remote.attemptFrom?_stop hattempt fun _ _ => hlast, fun requests waited => ?_⟩
    rw [Remote.report_acts, Remote.askFrom, hattempt]
    dsimp only
    split
    · next hsucc => cases hsucc
    · rfl
  | succ left ih =>
    obtain ⟨outcome, rest, hattempt⟩ := r.exists_attempt responses
    have hlt : attempt < retries := by
      rw [UInt32.lt_iff_toNat_lt]
      omega
    obtain ⟨next, hnext, htoNat⟩ := exists_nextAttempt? hlt
    by_cases hfault : ∃ reason, outcome = .error (.unreachable reason)
    · obtain ⟨reason, rfl⟩ := hfault
      obtain ⟨log, hlog, hask⟩ := ih next (by omega) rest
      refine ⟨log.after (r.failedActs attempt.toNat), ?_, fun requests waited => ?_⟩
      · rw [Remote.attemptFrom?_retry hattempt hlt hnext, hlog, Option.map_some]
      · rw [Remote.report_after, ← hask, htoNat, Remote.askFrom, hattempt]
        rfl
    · refine ⟨_, Remote.attemptFrom?_stop hattempt fun reason h => absurd ⟨reason, h⟩ hfault,
        fun requests waited => ?_⟩
      rw [Remote.report_acts, Remote.askFrom, hattempt]
      dsimp only
      split
      · exact absurd ⟨_, rfl⟩ hfault
      · rfl

end Asking

/-! ### What is done -/

section Acts

variable {r : Remote} {retries attempt : UInt32} {responses : List Response} {attempts count : Nat}

/-- Attempt after attempt fails, each one but the last with a pause after it. -/
theorem Remote.IsDownFor.attemptFrom?_add (h : r.IsDownFor (attempts + count) responses)
    (attempt later : UInt32) (hlater : later.toNat = attempt.toNat + count) (hle : later.toNat ≤ retries.toNat) :
    r.attemptFrom? retries attempt responses =
        (r.attemptFrom? retries later (responses.drop (count * r.requestsEach))).map
          (Log.after ((List.range' attempt.toNat count).flatMap r.failedActs)) ∧
      r.IsDownFor attempts (responses.drop (count * r.requestsEach)) := by
  induction count generalizing responses attempt with
  | zero =>
    have hsame : later = attempt := UInt32.toNat_inj.mp hlater
    rw [hsame, Nat.zero_mul, List.drop_zero]
    refine ⟨?_, h⟩
    cases r.attemptFrom? retries attempt responses <;> rfl
  | succ count ih =>
    have hlt : attempt < retries := by
      rw [UInt32.lt_iff_toNat_lt]
      omega
    obtain ⟨next, hnext, htoNat⟩ := exists_nextAttempt? hlt
    obtain ⟨reason, hreason⟩ := r.fault_eq
    obtain ⟨hadd, hdown⟩ := ih h.drop next (by omega)
    have hdrop : (responses.drop r.requestsEach).drop (count * r.requestsEach) =
        responses.drop ((count + 1) * r.requestsEach) := by
      rw [List.drop_drop, Nat.add_mul, Nat.one_mul, Nat.add_comm]
    rw [hdrop] at hadd hdown
    refine ⟨?_, hdown⟩
    have hattempt := h.attempt
    rw [hreason] at hattempt
    rw [Remote.attemptFrom?_retry hattempt hlt hnext, hadd, Option.map_map, Log.after_after, htoNat,
      List.range'_succ, List.flatMap_cons]

/-- All attempts of a source that is down. -/
theorem Remote.IsDownFor.attemptFrom?_eq (h : r.IsDownFor (retries.toNat + 1) responses) :
    r.attemptFrom? retries 0 responses =
      some ⟨(List.range retries.toNat).flatMap r.failedActs ++ r.acts, .error r.fault,
        responses.drop ((retries.toNat + 1) * r.requestsEach)⟩ := by
  rw [Nat.add_comm] at h
  obtain ⟨hadd, hdown⟩ := h.attemptFrom?_add 0 retries (Nat.zero_add _).symm (Nat.le_refl _)
  have hlast : ¬ retries < retries := UInt32.lt_irrefl retries
  rw [hadd, Remote.attemptFrom?_stop (Remote.IsDownFor.attempt hdown) fun _ _ => hlast,
    Option.map_some, List.drop_drop, Nat.add_mul, Nat.one_mul, List.range_eq_range']
  rfl

variable {a : Address}

/-- Lost requests, one after the other, and an answer, after which nothing more is done. -/
theorem Remote.attemptFrom?_answer (haddress : r.address = .ok a) {lost : List Response}
    (hlost : ∀ x ∈ lost, x.isLost) (hretries : lost.length ≤ retries.toNat) {x : Response}
    (hx : x.isLost = false) (later : List Response) :
    r.attemptFrom? retries 0 (lost ++ x :: later) =
      some ⟨(List.range lost.length).flatMap r.failedActs ++ [.get a], x.read a, later⟩ := by
  have heach : r.requestsEach = 1 := by rw [Remote.requestsEach, haddress]
  have hacts : r.acts = [.get a] := by rw [Remote.acts, haddress]
  have hdown : r.IsDownFor (0 + lost.length) (lost ++ x :: later) := by
    intro _ _ y hy
    rw [Nat.zero_add, List.take_left] at hy
    exact hlost y hy
  have hword : lost.length < UInt32.size := Nat.lt_of_le_of_lt hretries retries.toNat_lt_size
  have htoNat : (UInt32.ofNat lost.length).toNat = lost.length := UInt32.toNat_ofNat_of_lt' hword
  obtain ⟨hadd, -⟩ := hdown.attemptFrom?_add 0 (UInt32.ofNat lost.length)
    (htoNat.trans (Nat.zero_add _).symm) (htoNat.trans_le hretries)
  rw [heach, Nat.mul_one, List.drop_left, Remote.attemptFrom?_stop (Remote.attempt_cons haddress x later),
    Option.map_some, hacts] at hadd
  · rw [hadd, List.range_eq_range']
    rfl
  · intro reason hreason
    cases Response.read_answer a hx hreason

end Acts

end ConsoleNav.Store
