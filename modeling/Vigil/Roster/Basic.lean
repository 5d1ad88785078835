import Vigil.Checker.Registry
import Vigil.Roster.Monitored

/-!
The services that are being checked, and how a fresh list of services is merged into them. Entries
come and go; the live state of a service is handed from each entry to the next.
-/

namespace Vigil

open Vigil.Clock

structure Roster where
  entries : Keyed Int Monitored
  /-- The live states. An entry names its own by position. -/
  lives : List Live
  /-- How many entries there have ever been. -/
  made : Nat
deriving DecidableEq, Repr

structure MergeSummary where
  added : Nat
  updated : Nat
  unchanged : Nat
  removed : Nat
  /-- Services whose check could not be set up. -/
  failed : Nat
deriving DecidableEq, Repr

instance : Inhabited MergeSummary := ⟨⟨0, 0, 0, 0, 0⟩⟩

namespace Roster

def empty : Roster := ⟨.empty, [], 0⟩

instance : Inhabited Roster := ⟨empty⟩

def entry? (r : Roster) (id : Int) : Option Monitored := r.entries.get? id

/-- The entries by the numbers of their services. -/
def list (r : Roster) : List Monitored := r.entries.values

def holds (r : Roster) (m : Monitored) : Bool := (r.entry? m.id).any fun e => e.serial == m.serial

/-! ### Live states -/

def live (r : Roster) (m : Monitored) : Live := (r.lives[m.cell]?).getD default

def setLive (r : Roster) (m : Monitored) (l : Live) : Roster :=
  { r with lives := r.lives.set m.cell l }

/-- Record a verdict on an entry, with the events that it causes. -/
def record (r : Roster) (m : Monitored) (v : Verdict) (time : Instant) : Roster × List Event :=
  (r.setLive m ((r.live m).after v), (r.live m).events m.service v time)

/-! ### Merging -/

/-- What becomes of a service of a fresh list. -/
inductive Reception where
  /-- The service is not to be checked. -/
  | inactive
  /-- The list has already named the service. -/
  | repeated
  /-- The check could not be set up. -/
  | failed
  /-- The entry stays as it is. -/
  | kept (entry : Monitored)
  /-- The service has a new check and keeps its live state. -/
  | updated (before : Monitored) (checker : Checker)
  | added (checker : Checker)
deriving DecidableEq, Repr

/-- Decide on a service, by the entries before the merge and those that the merge has made so
far. -/
def receive (build : Service → Option Checker) (old new : Keyed Int Monitored) (s : Service) :
    Reception :=
  if !s.active then .inactive
  else if new.contains s.id then .repeated
  else match old.get? s.id with
    | none =>
      match build s with
      | none => .failed
      | some checker => .added checker
    | some entry =>
      if entry.service.sameTarget s then .kept entry
      else match build s with
        | none => .failed
        | some checker => .updated entry checker

/-- A roster in the making, with what has been done. -/
abbrev Draft := Roster × MergeSummary

def enter (d : Draft) (s : Service) (decision : Reception) : Draft :=
  let (r, n) := d
  match decision with
  | .inactive | .repeated => (r, n)
  | .failed => (r, { n with failed := n.failed + 1 })
  | .kept entry =>
    ({ r with entries := r.entries.insert s.id entry }, { n with unchanged := n.unchanged + 1 })
  | .updated before checker =>
    ({ r with
        entries := r.entries.insert s.id ⟨s, checker, r.made, before.cell⟩
        made := r.made + 1 },
      { n with updated := n.updated + 1 })
  | .added checker =>
    (⟨r.entries.insert s.id ⟨s, checker, r.made, r.lives.length⟩, r.lives ++ [.ofService s],
      r.made + 1⟩,
      { n with added := n.added + 1 })

def draft (r : Roster) (build : Service → Option Checker) (fresh : List Service) : Draft :=
  fresh.foldl (fun d s => enter d s (receive build r.entries d.1.entries s))
    ({ r with entries := .empty }, default)

/-- Merge a fresh list. An empty one clears the roster, if it comes from a datastore that can be
reached; else it means nothing. -/
def merge (r : Roster) (build : Service → Option Checker) (fresh : List Service)
    (reachable : Bool) :
    Roster × MergeSummary :=
  if fresh.isEmpty then
    if reachable then ({ r with entries := .empty },
      { (default : MergeSummary) with removed := r.entries.size })
    else (r, default)
  else
    let (next, done) := r.draft build fresh
    (next, { done with
      removed := (r.entries.keys.filter fun id => !next.entries.contains id).length })

end Roster

def Checker.Registry.builder (registry : Registry) (default : Duration) (s : Service) :
    Option Checker :=
  (registry.build s default).toOption

end Vigil
