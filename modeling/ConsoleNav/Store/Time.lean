import ConsoleNav.Store.Basic

/-!
A store as time passes. Loads go on whenever whoever uses the store waits; then time jumps from one
moment at which a load has something to do to the next.
-/
namespace ConsoleNav.Store

/-- Let loads go on, each one once, and look for newer tickets first. -/
def pollEach : List Load → Store → Store
  | [], s => s
  | l :: ls, s => pollEach ls (keep l (s.poll .ticket false l))

/-- Let every pending load go on once. -/
def pollAll (s : Store) : Store :=
  pollEach s.pending { s with pending := [] }

def pollTimes : Nat → Store → Store
  | 0, s => s
  | n + 1, s => pollTimes n s.pollAll

/-- Let loads go on until none can without time passing. Each round but the last ends a load. -/
def settle (s : Store) : Store :=
  pollTimes s.pending.length s

def Load.wakes (l : Load) (timeout : Nat) : Nat :=
  match l.due with
  | some t => min t (l.deadline timeout)
  | none => l.deadline timeout

def nextWake (s : Store) : Option Nat :=
  (s.pending.map (·.wakes s.timeout)).min?

/-- Let time pass up to `target`, stopping at each time at which a load has something to do. -/
def passUntil (target : Nat) : Nat → Store → Store
  | 0, s => { s with clock := target }
  | fuel + 1, s =>
    let s := s.settle
    match s.nextWake with
    | some t => if t ≤ target then passUntil target fuel { s with clock := t } else { s with clock := target }
    | none => { s with clock := target }

def wait (millis : Nat) (s : Store) : Store :=
  passUntil (s.clock + millis) (s.pending.length + 1) s

def passUntilEnd (ticket : Nat) : Nat → Store → Store
  | 0, s => s
  | fuel + 1, s =>
    let s := s.settle
    if s.finished.any (·.1 == ticket) then s
    else
      match s.nextWake with
      | some t => passUntilEnd ticket fuel { s with clock := t }
      | none => s

/-- Wait for the answer of a load and take it. There is none for a load that was given up. -/
def await (ticket : Nat) (s : Store) : Option Answer × Store :=
  match s.take? ticket with
  | some (answer, s) => (some answer, s)
  | none =>
    let s := passUntilEnd ticket (s.pending.length + 1) s
    match s.take? ticket with
    | some (answer, s) => (some answer, s)
    | none => (none, s)

def start (s : Store) : Nat × Store :=
  let (ticket, s) := s.begin
  (ticket, s.settle)

def load (s : Store) : Option Answer × Store :=
  let (ticket, s) := s.begin
  s.await ticket

end ConsoleNav.Store
