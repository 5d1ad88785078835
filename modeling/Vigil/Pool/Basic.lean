import Vigil.Confirmation.Basic
import Vigil.Roster.Monitored

/-!
A fixed number of workers that check services from one queue, first come first served. Only one
worker at a time looks at the queue; the others wait in line for their turn. Verdicts go to a
recorder.

The pool moves in small steps, so that its steps and those of others may come in any order.
-/

namespace Vigil

/-- A check of a service with its repetitions. -/
structure Execution where
  job : Monitored
  /-- The status of the service when the check began. -/
  previous : Status
  /-- How often the check may still be repeated. -/
  left : Nat
deriving DecidableEq, Repr

/-- What a worker is doing, on a clock of whole milliseconds. -/
inductive Worker where
  /-- It goes to look at the queue. -/
  | seeking
  /-- It waits in line. -/
  | inLine
  /-- It looks at the queue. -/
  | listening
  /-- It has a job and has not begun with it. -/
  | holding (job : Monitored)
  | checking (x : Execution) (due : Nat) (verdict : Verdict)
  /-- It waits before it repeats a check. -/
  | pausing (x : Execution) (due : Nat)
  /-- It has been told to drop what it does. -/
  | doomed
  | finished
  | aborted
deriving DecidableEq, Repr

namespace Worker

instance : Inhabited Worker := ⟨finished⟩

def isOver : Worker → Bool
  | finished | aborted => true
  | _ => false

def due? : Worker → Option Nat
  | checking _ due _ | pausing _ due => some due
  | _ => none

end Worker

/-- A verdict on its way to the recorder. -/
structure Finding where
  job : Monitored
  verdict : Verdict
deriving DecidableEq, Repr

inductive Recorder where
  | running
  | finished
  | aborted
deriving DecidableEq, Repr, Inhabited

/-- The workers, their queue, and the verdicts that wait for the recorder. -/
structure Pool where
  confirmation : Confirmation
  jobs : List Monitored
  /-- Whether no job is taken any more. -/
  stopped : Bool
  workers : List Worker
  /-- The workers that wait for their turn, in order. -/
  line : List Nat
  findings : List Finding
  recorder : Recorder
deriving DecidableEq, Repr

namespace Pool

/-- A pool of so many workers, but at least one. -/
def ofSize (size : Nat) (c : Confirmation) : Pool :=
  ⟨c, [], false, List.replicate (max size 1) .seeking, [], [], .running⟩

instance : Inhabited Pool := ⟨ofSize 1 default⟩

def worker (p : Pool) (i : Nat) : Worker := (p.workers[i]?).getD default

def set (p : Pool) (i : Nat) (s : Worker) : Pool := { p with workers := p.workers.set i s }

def isOver (p : Pool) : Bool := p.workers.all Worker.isOver

/-! ### What others do -/

def enqueue (p : Pool) (m : Monitored) : Pool := { p with jobs := p.jobs ++ [m] }

/-- No job is taken from now on. -/
def stop (p : Pool) : Pool := { p with stopped := true }

/-- Tell all workers that have not come to their end to drop what they do. -/
def abort (p : Pool) : Pool :=
  { p with workers := p.workers.map fun s => if s.isOver then s else .doomed }

/-! ### Turns at the queue -/

/-- Whether some worker looks at the queue. -/
def isWatched (p : Pool) : Bool := p.workers.any (· = .listening)

/-- A worker goes to look at the queue, or stands in line if another one looks. -/
def seek (p : Pool) (i : Nat) : Pool :=
  if p.isWatched then { p.set i .inLine with line := p.line ++ [i] } else p.set i .listening

def yieldTurn (p : Pool) : Pool :=
  match p.line with
  | [] => p
  | i :: rest => { p.set i .listening with line := rest }

/-- A worker at the queue takes a job, or comes to its end once the pool has been stopped. -/
def listen (p : Pool) (i : Nat) : Option Pool :=
  if p.stopped then some (p.set i .finished).yieldTurn
  else match p.jobs with
    | [] => none
    | job :: rest => some ({ p.set i (.holding job) with jobs := rest } : Pool).yieldTurn

def handIn (p : Pool) (i : Nat) (job : Monitored) (v : Verdict) : Pool :=
  { p.set i .seeking with findings := p.findings ++ [⟨job, v⟩] }

end Pool

end Vigil
