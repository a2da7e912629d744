import ConsoleNav.Instant.Reader
import ConsoleNav.Json.Wire
import ConsoleNav.Store.Basic

/-!
What a store says about itself, and the JSON form of it.
-/
namespace ConsoleNav.Store

open Json

/-- Whether a store has ever been given a menu. -/
inductive State where
  | empty
  | loaded
deriving DecidableEq

structure Status where
  state : State
  /-- The number of entries at all levels. -/
  entries : Nat
  loadedAt : Option Instant
deriving DecidableEq

def status (s : Store) : Status where
  state := if s.snapshot.loadedAt.isSome then .loaded else .empty
  entries := Menu.count s.snapshot.menu
  loadedAt := s.snapshot.loadedAt

def State.name : State → String
  | .empty => "empty"
  | .loaded => "loaded"

def State.variants : List (String × State) :=
  [("empty", .empty), ("loaded", .loaded)]

instance : Wire State := ⟨fun s => .string s.name, fun _ depth => readVariant depth State.variants⟩

def Status.toJson (s : Status) : Json :=
  .object [("state", .string s.state.name), ("entries", .number (.int s.entries)),
    ("loaded_at", match s.loadedAt with
      | none => .null
      | some i => .string i.text)]

def readInstant : Reader Instant := fun cs => do
  let (s, rest) ← readStringAs "an RFC 3339 formatted date and time string" cs
  match Instant.read s with
  | .ok i => .ok (i, rest)
  | .error e => .error ⟨[], .refused e.message⟩

def Status.reader (size depth : Nat) : Reader Status :=
  readFlatRecord size depth "struct MenuStatus" {
    blank := ⟨.empty, 0, none⟩
    fields := [
      .of "state" .always (Wire.reader size (depth - 1)) fun st s => { s with state := st },
      .of "entries" .always (readNat "usize" UInt64.size) fun n s => { s with entries := n },
      .of "loaded_at" .inLists (readOption readInstant) fun i s => { s with loadedAt := i }] }

instance : Wire Status := ⟨Status.toJson, Status.reader⟩

end ConsoleNav.Store
