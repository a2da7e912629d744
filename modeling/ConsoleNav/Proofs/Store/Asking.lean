import ConsoleNav.Store.Source

/-!
What comes of asking a remote source: requests that get no answer are made again after ever longer
pauses, and the first answer decides.
-/
namespace ConsoleNav.Store

/-- A response that is no answer to the request. -/
def Response.isLost : Response → Bool
  | .dropped => true
  | .answered status _ => !isFinalStatus status

def FetchFault.isUnreachable : FetchFault → Bool
  | .unreachable _ => true
  | _ => false

/-- The time that `count` pauses take, of which the first one follows attempt number `attempt`. -/
def pauses (attempt : Nat) : Nat → Nat
  | 0 => 0
  | count + 1 => backoff attempt + pauses (attempt + 1) count

theorem Response.read_lost (a : Address) {x : Response} (h : x.isLost) :
    x.read a = .error (unanswered a) := by
  cases x with
  | dropped => rfl
  | answered status body =>
    simp only [Response.isLost] at h
    rw [Response.read, if_pos h]

theorem Response.read_answer (a : Address) {x : Response} (h : x.isLost = false) {fault : FetchFault}
    (hread : x.read a = .error fault) : fault.isUnreachable = false := by
  cases x with
  | dropped => cases h
  | answered status body =>
    simp only [Response.isLost] at h
    rw [Response.read, if_neg (by simp [h])] at hread
    split at hread
    · split at hread
      · cases hread
      · cases hread
        rfl
    · cases hread
      rfl

variable {r : Remote} {a : Address}

theorem Remote.attempt_cons (h : r.address = .ok a) (x : Response) (xs : List Response) :
    r.attempt (x :: xs) = (x.read a, 1, xs) := by
  rw [Remote.attempt, h]

theorem Remote.askFrom_answer (h : r.address = .ok a) {x : Response} (hx : x.isLost = false)
    (patience : Option Nat) (left attempt requests waited : Nat) (later : List Response) :
    r.askFrom patience left attempt requests waited (x :: later) =
      ⟨requests + 1, waited, some (x.read a), later⟩ := by
  rw [Remote.askFrom, Remote.attempt_cons h]
  dsimp only
  split
  · next hread => cases Response.read_answer a hx hread
  · rfl

theorem Remote.askFrom_lost (h : r.address = .ok a) {x : Response} (hx : x.isLost)
    {patience : Option Nat} {left attempt requests waited : Nat}
    (hpatient : exceeds patience (waited + backoff attempt) = false) (later : List Response) :
    r.askFrom patience (left + 1) attempt requests waited (x :: later) =
      r.askFrom patience left (attempt + 1) (requests + 1) (waited + backoff attempt) later := by
  rw [Remote.askFrom, Remote.attempt_cons h, Response.read_lost a hx]
  simp only [unanswered, hpatient]
  rfl

theorem exceeds_mono {patience : Option Nat} {short long : Nat} (h : exceeds patience long = false)
    (hle : short ≤ long) : exceeds patience short = false := by
  cases patience with
  | none => rfl
  | some p =>
    simp only [exceeds, decide_eq_false_iff_not] at h ⊢
    omega

/-- Lost requests use up one retry and one pause each. -/
theorem Remote.askFrom_append (h : r.address = .ok a) {patience : Option Nat} {lost : List Response}
    (hlost : ∀ x ∈ lost, x.isLost) {left attempt requests waited : Nat}
    (hpatient : exceeds patience (waited + pauses attempt lost.length) = false)
    (later : List Response) :
    r.askFrom patience (lost.length + left) attempt requests waited (lost ++ later) =
      r.askFrom patience left (attempt + lost.length) (requests + lost.length)
        (waited + pauses attempt lost.length) later := by
  induction lost generalizing attempt requests waited with
  | nil => simp [pauses]
  | cons x lost ih =>
    rw [List.forall_mem_cons] at hlost
    rw [List.length_cons, pauses, ← Nat.add_assoc] at hpatient
    have hfirst := exceeds_mono hpatient (Nat.le_add_right _ _)
    rw [List.length_cons, Nat.add_right_comm, List.cons_append, Remote.askFrom_lost h hlost.1 hfirst,
      ih hlost.2 hpatient, pauses, Nat.add_assoc waited, Nat.add_assoc attempt,
      Nat.add_assoc requests, Nat.add_comm 1]

theorem Remote.ask_eq (h : r.address = .ok a) {patience : Option Nat} {lost : List Response}
    (hlost : ∀ x ∈ lost, x.isLost) (hretries : lost.length ≤ r.retries)
    (hpatient : exceeds patience (pauses 0 lost.length) = false) {x : Response}
    (hx : x.isLost = false) (later : List Response) :
    r.ask patience (lost ++ x :: later) =
      ⟨lost.length + 1, pauses 0 lost.length, some (x.read a), later⟩ := by
  obtain ⟨left, hleft⟩ := Nat.exists_eq_add_of_le hretries
  have hwait : exceeds patience (0 + pauses 0 lost.length) = false := by rwa [Nat.zero_add]
  rw [Remote.ask, hleft, Remote.askFrom_append h hlost hwait, Remote.askFrom_answer h hx,
    Nat.zero_add, Nat.zero_add]

end ConsoleNav.Store
