import ConsoleNav.Instant.Basic
import ConsoleNav.Menu.Walk
import ConsoleNav.Store.Source

/-!
The menu store: the current menu, replaced as a whole by a write or by a load from the source. Each
write and each load draws a ticket; a load commits only while its ticket is the newest one.
-/
namespace ConsoleNav

namespace Store

/-- A menu as it was committed. Snapshots are told apart by their serial numbers. -/
structure Snapshot where
  menu : List Menu.Entry
  /-- The number of commits so far. -/
  serial : Nat
  loadedAt : Option Instant

/-- What a store holds before the first commit. -/
def Snapshot.initial : Snapshot :=
  ⟨[], 0, none⟩

structure Load where
  ticket : Nat
  fetch : Fetch
  begun : Nat

/-- How a load ends: with the snapshot it committed, or with a fault. -/
abbrev Answer := Except LoadFault Snapshot

end Store

open Store in
structure Store where
  source : Source
  /-- The longest time in milliseconds that a load waits for the source. -/
  timeout : Nat
  /-- The time in milliseconds. -/
  clock : Nat := 0
  /-- The newest ticket. -/
  generation : Nat := 0
  snapshot : Snapshot := .initial
  fetches : Nat := 0
  /-- The loads under way, in the order of their tickets. -/
  pending : List Load := []
  /-- The answers of loads that nobody has taken yet, under their tickets. -/
  finished : List (Nat × Answer) := []

namespace Store

def defaultTimeout : Nat := 5000

def fresh (source : Source) (timeout : Nat) : Store :=
  { source, timeout }

def drawTicket (s : Store) : Store :=
  { s with generation := s.generation + 1 }

/-- Make a menu the current one. The snapshot of it is handed out. -/
def commit (menu : List Menu.Entry) (s : Store) : Snapshot × Store :=
  let snapshot : Snapshot := ⟨menu, s.snapshot.serial + 1, some (Instant.ofMillis s.clock)⟩
  (snapshot, { s with snapshot })

/-- Replace the menu. Its shape is not checked, and no load begun before will commit. -/
def set (menu : List Menu.Entry) (s : Store) : Snapshot × Store :=
  s.drawTicket.commit menu

def Load.due (l : Load) : Option Nat :=
  l.fetch.due.map (l.begun + ·)

def Load.deadline (l : Load) (timeout : Nat) : Nat :=
  l.begun + timeout

/-- Whether the source does something at a time or has done so before. -/
def Load.isDue (l : Load) (clock : Nat) : Bool :=
  match l.due with
  | some t => t ≤ clock
  | none => false

/-- The store once the source of a load has written what it writes itself. -/
def letWrite (l : Load) (s : Store) : Store :=
  match l.fetch.writes with
  | some menu => (s.set menu).2
  | none => s

/-- The menu that a source has answered with, if it has the right shape, or why there is none. -/
def judge : Except FetchFault (List Menu.Entry) → Except LoadFault (List Menu.Entry)
  | .error fault => .error (.fetch fault)
  | .ok menu =>
    if Menu.isValid menu then .ok menu else .error (.malformed (Menu.violations menu))

/-- Commit the menu of a load, if no newer ticket than its own has been drawn. -/
def tryCommit (l : Load) (menu : List Menu.Entry) (s : Store) : Answer × Store :=
  if s.generation = l.ticket then
    let (snapshot, s) := s.commit menu
    (.ok snapshot, s)
  else (.error .superseded, s)

def conclude (l : Load) (s : Store) (outcome : Except FetchFault (List Menu.Entry)) : Answer × Store :=
  match judge outcome with
  | .ok menu => s.tryCommit l menu
  | .error fault => (.error fault, s)

/-- What a load looks at first when it goes on: its source and the time left for it, or whether its ticket is
still the newest one. Where both would end it, the first one does. -/
inductive Race where
  | source
  | ticket
deriving DecidableEq

/-- How a load ends without an answer: at its deadline, and before that because of a newer ticket. -/
def withoutAnswer (l : Load) (s : Store) : Answer :=
  if l.deadline s.timeout ≤ s.clock then .error (.fetch (.timedOut s.timeout)) else .error .superseded

/-- A load whose source does nothing now. -/
def expire (l : Load) (s : Store) : Option Answer × Store :=
  if l.deadline s.timeout ≤ s.clock ∨ s.generation ≠ l.ticket then (some (s.withoutAnswer l), s) else (none, s)

/-- Let a load go on: its answer, if it comes to an end. A source that yields has to be passed over
once. -/
def poll (race : Race) (passOver : Bool) (l : Load) (s : Store) : Option Answer × Store :=
  if race = .ticket ∧ s.generation ≠ l.ticket then (some (.error .superseded), s)
  else if l.isDue s.clock && !passOver then
    let s := s.letWrite l
    match l.fetch.outcome with
    | some outcome =>
      let (answer, s) := s.conclude l outcome
      (some answer, s)
    | none =>
      -- The source has done nothing but write, and so has drawn a newer ticket.
      (some (s.withoutAnswer l), s)
  else s.expire l

/-- Keep a load that goes on among the pending ones, and the answer of one that has ended. -/
def keep (l : Load) : Option Answer × Store → Store
  | (some answer, s) => { s with finished := s.finished ++ [(l.ticket, answer)] }
  | (none, s) => { s with pending := s.pending ++ [l] }

/-- A load that draws a ticket and asks the source, and the store after that. -/
def enter (s : Store) : Load × Store :=
  let s := s.drawTicket
  let (fetch, source) := s.source.next s.timeout
  (⟨s.generation, fetch, s.clock⟩, { s with source, fetches := s.fetches + 1 })

/-- Begin a load. It may end at once. Its ticket is the newest one, so that it does not count what it looks at
first. -/
def begin (s : Store) : Nat × Store :=
  let (l, s) := s.enter
  (l.ticket, keep l (s.poll .ticket l.fetch.yields l))

/-- Give up a load. Its ticket stays used. -/
def abort (ticket : Nat) (s : Store) : Bool × Store :=
  (s.pending.any (·.ticket == ticket),
    { s with
      pending := s.pending.filter (·.ticket != ticket),
      finished := s.finished.filter (·.1 != ticket) })

def take? (ticket : Nat) (s : Store) : Option (Answer × Store) :=
  match s.finished.find? (·.1 == ticket) with
  | some (_, answer) => some (answer, { s with finished := s.finished.filter (·.1 != ticket) })
  | none => none

def find? (id : String) (s : Store) : Option Menu.Entry :=
  Menu.find? id s.snapshot.menu

def describe (s : Store) : String :=
  "MenuStore \x7b source: " ++ Text.quoted s.source.describe ++ ", timeout: " ++
    Text.spanText s.timeout ++ ", generation: " ++ toString s.generation ++ " \x7d"

end Store

end ConsoleNav
