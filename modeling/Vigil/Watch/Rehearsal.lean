import Vigil.Watch.Basic

/-!
One order of the steps of a watch, on a clock that moves only when every task waits for it. A task
goes on until it has to wait. Tasks that become able to go on stand in line; the leader goes on when
nobody else can, and before all others when the clock has moved. Tasks that wait for the same moment
go on in the order in which they began to wait.
-/

namespace Vigil

namespace Watch

def workerIsAble (w : Watch) (i : Nat) : Bool :=
  match w.pool.worker i with
  | .seeking | .holding _ | .doomed => true
  | .inLine | .finished | .aborted => false
  | .listening => w.pool.stopped || !w.pool.jobs.isEmpty
  | .checking _ due _ | .pausing _ due => due ≤ w.now

def isAble (w : Watch) : Task → Bool
  | .worker i => w.workerIsAble i
  | t => (w.move t).isSome

/-- A task is able to go on if it has a next step. -/
theorem isAble_eq (w : Watch) (t : Task) : w.isAble t = (w.move t).isSome := by
  cases t with
  | worker i =>
    simp only [isAble, workerIsAble, move, moveWorker]
    cases h : w.pool.worker i with
    | listening =>
        cases hs : w.pool.stopped <;> cases hj : w.pool.jobs <;> simp [Pool.listen, hs, hj]
    | checking x due v =>
      by_cases hd : w.now < due
      · simp [hd]
      · simp only [hd, if_false]
        split <;> simpa using hd
    | pausing x due =>
      by_cases hd : w.now < due
      · simp [hd]
      · simp [hd, Nat.le_of_not_lt hd]
    | _ => rfl
  | _ => rfl

end Watch

/-- A watch under way in a rehearsal. -/
structure Rehearsal where
  watch : Watch
  /-- The task that is going on. -/
  current : Option Watch.Task
  /-- The tasks that are able to go on, but for the leader, in the order in which they became
  able. -/
  queue : List Watch.Task
  /-- The tasks that wait for the clock, in the order in which they began to. -/
  clocked : List Watch.Task
  /-- What has happened, and when, the latest first. -/
  log : List (Nat × Watch.Act)

namespace Rehearsal

open Vigil.Watch

/-- A rehearsal in which all tasks are about to begin. -/
def ofWatch (w : Watch) : Rehearsal := ⟨w, none, w.others.filter w.isAble, [], []⟩

/-- Tasks that are able to go on and do not stand in line yet join it. -/
def joinQueue (r : Rehearsal) : Rehearsal :=
  { r with queue := r.queue ++ r.watch.others.filter fun t =>
      !(r.current == some t) && !r.queue.contains t && r.watch.isAble t }

/-- The going task has to wait, perhaps for the clock. -/
def suspend (r : Rehearsal) (t : Task) : Rehearsal :=
  let others := r.clocked.erase t
  { r with
    current := none
    clocked := if (r.watch.due? t).isSome then others ++ [t] else others }

def nextDue? (r : Rehearsal) : Option Nat := (r.clocked.filterMap r.watch.due?).min?

/-- The clock moves on to a moment, and those who waited for it stand in line. -/
def advance (r : Rehearsal) (now : Nat) : Rehearsal :=
  let r := { r with watch.now := now }
  let (due, later) := r.clocked.partition r.watch.isAble
  { r with
    current := if due.contains .leader then some .leader else none
    queue := due.filter (· ≠ .leader)
    clocked := later }

/-- The next step of a rehearsal; nothing is left to do when the leader is idle. -/
def step (r : Rehearsal) : Option Rehearsal :=
  if r.watch.leader = .idle then none
  else match r.current with
    | some t =>
      match r.watch.move t with
      | some (watch, acts) =>
        let log := (acts.map fun act => (watch.now, act)).reverse ++ r.log
        some { r with watch, log }.joinQueue
      | none => some (r.suspend t)
    | none =>
      match r.queue with
      | t :: rest => some { r with current := some t, queue := rest }
      | [] =>
        if r.watch.isAble .leader then some { r with current := some .leader }
        else r.nextDue?.map r.advance

def run : (steps : Nat) → Rehearsal → Rehearsal
  | 0, r => r
  | steps + 1, r =>
    match r.step with
    | none => r
    | some next => run steps next

/-- More steps than any rehearsal takes. -/
def patience : Nat := Nat.pow 10 12

/-- Set the leader to work, and go on until it is idle again. -/
def lead (r : Rehearsal) (start : Watch → Watch × List Act) : Rehearsal :=
  let (watch, acts) := start r.watch
  let log := (acts.map fun act => (watch.now, act)).reverse ++ r.log
  let r := { r with watch, log, current := some .leader }.joinQueue
  { run patience r with current := none }

/-! ### What the leader can be set to -/

def sleep (r : Rehearsal) (ms : Nat) : Rehearsal :=
  r.lead fun w => ({ w with leader := .sleeping (w.now + ms) }, [])

def refresh (r : Rehearsal) : Rehearsal := r.lead (·.fetch .refresh)

def round (r : Rehearsal) : Rehearsal := r.lead (·.fetch .round)

/-- The leader goes through rounds until it is cancelled, and then shuts down. -/
def runToEnd (r : Rehearsal) : Rehearsal := r.lead fun w =>
  let (w, acts) := { w with lifecycle := .running }.fetch .run
  (w, .entered .running :: acts)

def terminate (r : Rehearsal) : Rehearsal := r.lead fun w => (w.drain .terminate, [])

def close (r : Rehearsal) : Rehearsal := r.lead fun w => (w.close, [])

def change (r : Rehearsal) (f : Watch → Watch) : Rehearsal := { r with watch := f r.watch }

/-- Cancel the rounds after some milliseconds; until then they are not cancelled. -/
def cancelAfter (r : Rehearsal) (ms : Nat) : Rehearsal :=
  { r with
    watch.cancelled := false
    watch.alarm := some (r.watch.now + ms)
    clocked := r.clocked.erase .canceller ++ [.canceller] }

/-! ### What has happened -/

/-- The log from the beginning. -/
def history (r : Rehearsal) : List (Nat × Act) := r.log.reverse

/-- The runs of checks in a log: when they began, and of which services. -/
def starts (l : List (Nat × Act)) : List (Nat × Int) := l.filterMap fun (now, act) =>
  match act with
  | .checked id => some (now, id)
  | _ => none

def fetches (l : List (Nat × Act)) : List (Nat × Bool) := l.filterMap fun (now, act) =>
  match act with
  | .fetched full => some (now, full)
  | _ => none

/-- When the rounds were cancelled in a log, and in which part of the life. -/
def cancellation? : List (Nat × Act) → Option (Nat × Lifecycle)
  | [] => none
  | (_, .entered l) :: rest => (cancellation? rest).map fun (now, before) =>
    (now, if before = .initializing then l else before)
  | (now, .cancelled) :: _ => some (now, .initializing)
  | _ :: rest => cancellation? rest

/-- A commit: when it began, of which event, and whether the event was stored. -/
structure Attempt where
  began : Nat
  event : Event
  stored : Bool

/-- The commits in a log. One commit ends before the next one begins. -/
def attempts : List (Nat × Act) → List Attempt
  | [] => []
  | (now, .wrote (.began e)) :: rest =>
    let ended := rest.find? fun (_, act) =>
      match act with
      | .wrote (.began _) | .wrote (.stored _) | .wrote (.refused _) => true
      | _ => false
    let stored := match ended with
      | some (_, .wrote (.stored _)) => true
      | _ => false
    ⟨now, e, stored⟩ :: attempts rest
  | _ :: rest => attempts rest

end Rehearsal

end Vigil
