import Vigil.Program.Start
import Vigil.Store.Gateway
import Vigil.Watch.Rehearsal

/-!
A whole session of the program: the datastore is opened, services are loaded and checked, and events
are committed, until the program is told to end. Checks behave as is laid down in advance.
-/

namespace Vigil.Program

open Vigil.Clock Vigil.Store

/-- The program as its settings ask for, on a stage. -/
def watch (c : Config) (stage : Stage) : Except DurationError Watch := do
  let pause ← c.monitor.pause
  let timeout ← c.monitor.defaultTimeout
  let backoff ← c.events.backoff
  return .ofParts
    { build := Checker.Registry.builtin.builder timeout
      interval := c.monitor.interval
      grace := c.monitor.grace }
    stage (.ofSize c.monitor.maxWorkers ⟨c.monitor.retries, pause⟩)
    (Writer.ofPolicy ⟨backoff, c.events.flush, c.events.maxPending⟩).start

/-- How the checks of services behave, if a check behaves in a certain way. -/
def scripts (c : Config) (behave : Checker → Behaviour) (services : List Service) :
    Keyed Int Script :=
  let timeout := c.monitor.defaultTimeout.toOption.getD default
  .ofList (services.filterMap fun s =>
    (Checker.Registry.builtin.builder timeout s).map fun checker =>
      (s.id, .ofList [behave checker]))

def storedEvents (l : List (Nat × Watch.Act)) : List Event := l.filterMap fun (_, act) =>
  match act with
  | .wrote (.stored e) => some e
  | _ => none

/-- Load the services, check them, and commit the events. The program is told to end after `life`
milliseconds. -/
def session (c : Config) (g : Gateway) (behave : Checker → Behaviour) (life : Nat) (db : Database) :
    Database :=
  let sound := (Attempt.sound, Attempt.sound)
  let (services, g) := g.fetch true (sound, sound) db
  let stage : Stage := ⟨services, g.reachable, [], scripts c behave services, []⟩
  match watch c stage with
  | .error _ => db
  | .ok w =>
    let events := storedEvents ((Rehearsal.ofWatch w).cancelAfter life).runToEnd.history
    (events.foldl (fun (reached : Gateway × Database) e =>
        (reached.1.commit e .sound .sound reached.2).2) (g, db)).2

/-- What is there when the program is started and after it has ended. -/
structure Machine where
  files : Files
  /-- The databases in the files. -/
  databases : Keyed Nat Database

def openStore (s : Started) (m : Machine) : Except StartFailure (Gateway × Nat) × Machine :=
  let path := s.config.database.path
  match m.files.openOrCreate path with
  | .error _ => (.error (.store path (Gateway.unopened path)), m)
  | .ok (file, files) =>
    let (answer, db) := Gateway.open? path .sound 0 ((m.databases.get? file).getD .empty)
    let m : Machine := ⟨files, m.databases.insert file db⟩
    match answer with
    | .error f => (.error (.store path f), m)
    | .ok g => (.ok (g, file), m)

inductive Signal where
  /-- To end. -/
  | terminate
  /-- To open its log file again. -/
  | hangup
deriving DecidableEq, Repr

/-- The log file is moved away, as far as there is one, and the program told to open it again. -/
def rotate (s : Started) (fs : Files) : Started × Files :=
  match s.log with
  | none => (s, fs)
  | some l =>
    let fs := (fs.rename l.path (Path.withEnding l.path "old")).toOption.getD fs
    match l.reopen fs with
    | .ok (l, fs) => ({ s with log := some l }, fs)
    | .error _ => (s, fs)

/-- A run of the program from its start to its end. It is sent some signals after `life`
milliseconds. -/
def runToEnd (s : Started) (behave : Checker → Behaviour) (life : Nat) (signals : List Signal)
    (m : Machine) : Except StartFailure Unit × Machine :=
  match openStore s m with
  | (.error f, m) => (.error f, { m with files := s.lock.release m.files })
  | (.ok (g, file), m) =>
    let db := session s.config g behave life ((m.databases.get? file).getD .empty)
    let (s, files) := signals.foldl (fun (s, fs) signal =>
      match signal with
      | .hangup => rotate s fs
      | .terminate => (s, fs)) (s, m.files)
    (.ok (), ⟨s.lock.release files, m.databases.insert file db⟩)

end Vigil.Program
