import Vigil.Keyed
import Vigil.Pool.Basic
import Vigil.Roster.Basic
import Vigil.Watch.Round
import Vigil.Writer.Basic

/-!
The program as it runs: the leader that refreshes the roster and spreads checks over each interval,
the pool that makes the checks, the recorder of verdicts, and the writer of events. Around them is a
stage on which all that comes from outside is laid down: what the datastore returns, what checks
answer, and how commits end. The clock counts whole milliseconds.

Main definition: `Watch.move`, the next step of a task. The steps of the tasks may come in any
order.
-/

namespace Vigil

open Vigil.Clock

/-- What comes from outside. -/
structure Stage where
  /-- What the datastore returns. -/
  services : List Service
  /-- Whether the datastore can be reached. -/
  reachable : Bool
  /-- How long the next fetches take. -/
  fetchDelays : List Nat
  /-- What the checks of each service do. -/
  scripts : Keyed Int Script
  /-- What the next commits do. -/
  commits : List Writer.Commit

namespace Watch

inductive Lifecycle where
  | initializing
  | running
  | draining
  | stopped
deriving DecidableEq, Repr, Inhabited

def Lifecycle.text : Lifecycle → String
  | initializing => "Initializing"
  | running => "Running"
  | draining => "Draining"
  | stopped => "Stopped"

/-- What the leader is after. -/
inductive Goal where
  /-- To refresh the roster. -/
  | refresh
  /-- To go through one round. -/
  | round
  /-- To go through rounds until it is cancelled, and then to shut down. -/
  | run
  /-- To end the pool. -/
  | terminate
  /-- To end the writer. -/
  | close
deriving DecidableEq, Repr, Inhabited

inductive Leader where
  | idle
  | sleeping (due : Nat)
  | fetching (goal : Goal) (began due : Nat)
  /-- It waits before it sends the rest of the services to the pool. -/
  | pacing (goal : Goal) (began : Nat) (rest : List Monitored) (pause : Duration) (due : Nat)
  /-- It waits for the end of the round. -/
  | waiting (goal : Goal) (due : Nat)
  /-- It waits for the workers. -/
  | draining (goal : Goal) (due : Nat)
  /-- It waits for workers that have been told to drop what they do. -/
  | aborting (goal : Goal)
  /-- It waits for the recorder. -/
  | recording (goal : Goal) (due : Nat)
  /-- It waits for the writer. -/
  | closing
deriving DecidableEq, Repr, Inhabited

/-- The orders in which services are sent to the pool, by the time at which their round sends the
first. -/
structure Shuffle where
  order : Nat → List Monitored → List Monitored
  perm : ∀ now l, (order now l).Perm l

def Shuffle.none : Shuffle := ⟨fun _ l => l, fun _ l => .refl l⟩

structure Policy where
  build : Service → Option Checker
  interval : Duration
  /-- How long running checks may take in the end. -/
  grace : Duration

inductive Act where
  | fetched (full : Bool)
  | merged (done : MergeSummary)
  /-- A service is sent to the pool. -/
  | sent (job : Monitored)
  /-- A round is over; whether another one may follow. -/
  | rounded (more : Bool)
  /-- A worker takes a job. -/
  | took (job : Monitored)
  /-- A check is run. -/
  | checked (id : Int)
  /-- A check has come to its verdict. -/
  | concluded (job : Monitored) (v : Verdict)
  | recorded (job : Monitored) (v : Verdict)
  /-- The rounds are cancelled. -/
  | cancelled
  | entered (l : Lifecycle)
  | wrote (act : Writer.Act)
deriving DecidableEq, Repr

/-- Who may make a step. -/
inductive Task where
  | leader
  | worker (i : Nat)
  | recorder
  | writer
  /-- Whoever cancels the rounds. -/
  | canceller
deriving DecidableEq, Repr

end Watch

/-- The program as it runs. -/
structure Watch where
  policy : Watch.Policy
  shuffle : Watch.Shuffle
  /-- Whether the writer, after as many failures, hears first that its end has been asked for, if
  its rest is over as well. -/
  hears : Nat → Bool
  stage : Stage
  now : Nat
  roster : Roster
  /-- Whether the next fetch also asks for what was last known of the services. -/
  fullRefresh : Bool
  pool : Pool
  writer : Writer
  leader : Watch.Leader
  lifecycle : Watch.Lifecycle
  cancelled : Bool
  /-- When the rounds will be cancelled. -/
  alarm : Option Nat

namespace Watch

/-- A program that has just been set up. -/
def ofParts (policy : Policy) (stage : Stage) (pool : Pool) (writer : Writer) : Watch :=
  ⟨policy, .none, fun _ => true, stage, 0, .empty, true, pool, writer, .idle, .initializing,
    false, none⟩

def instant (w : Watch) : Instant := ⟨w.now / 1000, w.now % 1000 * Duration.millisecond⟩

/-- How much time has passed since a time on the clock, in nanoseconds. -/
def elapsed (w : Watch) (since : Nat) : Nat := (w.now - since) * Duration.millisecond

/-! ### The leader -/

def fetch (w : Watch) (goal : Goal) : Watch × List Act :=
  ({ w with
      leader := .fetching goal w.now (w.now + w.stage.fetchDelays.headD 0)
      stage.fetchDelays := w.stage.fetchDelays.tail },
    [.fetched w.fullRefresh])

/-- Merge what has been fetched. -/
def refresh (w : Watch) : Watch × List Act :=
  let (roster, done) := w.roster.merge w.policy.build w.stage.services w.stage.reachable
  ({ w with roster, fullRefresh := w.fullRefresh && !w.stage.reachable }, [.merged done])

def wait (w : Watch) (goal : Goal) (began : Nat) : Watch :=
  let rest : Duration := ⟨Round.rest w.policy.interval.nanos (w.elapsed began)⟩
  { w with leader := .waiting goal (w.now + rest.millisUp) }

/-- Send a service to the pool, and wait for the next one or for the end of the round. -/
def send (w : Watch) (goal : Goal) (began : Nat) (pause : Duration) (m : Monitored)
    (rest : List Monitored) : Watch × List Act :=
  let w := { w with pool := w.pool.enqueue m }
  (if rest.isEmpty then w.wait goal began
    else { w with leader := .pacing goal began rest pause (w.now + pause.millisUp) },
    [.sent m])

/-- Send the first service to the pool, or wait for the end of the round if there is none. -/
def dispatch (w : Watch) (goal : Goal) (began : Nat) : Watch × List Act :=
  match w.shuffle.order w.now w.roster.list with
  | [] => (w.wait goal began, [])
  | m :: rest =>
    let pause := Round.pause w.policy.interval.nanos (w.elapsed began) (rest.length + 1)
    w.send goal began ⟨pause⟩ m rest

/-- Stop the pool, and wait for its workers. -/
def drain (w : Watch) (goal : Goal) : Watch :=
  { w with pool := w.pool.stop, leader := .draining goal (w.now + w.policy.grace.millisUp) }

def endRound (w : Watch) (goal : Goal) (more : Bool) : Watch × List Act :=
  match goal with
  | .run =>
    if more then
      let (w, acts) := w.fetch goal
      (w, .rounded true :: acts)
    else ({ w with lifecycle := .draining }.drain goal, [.rounded false, .entered .draining])
  | _ => ({ w with leader := .idle }, [.rounded more])

/-- Ask the writer for its end, and wait for it. -/
def close (w : Watch) : Watch := { w with writer := w.writer.stop, leader := .closing }

def endPool (w : Watch) (goal : Goal) : Watch :=
  match goal with
  | .run => w.close
  | _ => { w with leader := .idle }

/-- Whether there is no writer, or it has come to its end. -/
def writerIsOver (w : Watch) : Bool := w.writer.phase = .unstarted || w.writer.isOver

/-- The recorder goes, and with it the only one who sends events. -/
def dismiss (w : Watch) (returned : Recorder) : Watch :=
  { w with pool.recorder := returned, writer := w.writer.abandon }

def moveLeader (w : Watch) : Option (Watch × List Act) :=
  match w.leader with
  | .idle => none
  | .sleeping due => if w.now < due then none else some ({ w with leader := .idle }, [])
  | .fetching goal began due =>
    if w.now < due then none
    else
      let (w, acts) := w.refresh
      match goal with
      | .refresh => some ({ w with leader := .idle }, acts)
      | _ =>
        if w.cancelled then
          let (w, more) := w.endRound goal false
          some (w, acts ++ more)
        else
          let (w, more) := w.dispatch goal began
          some (w, acts ++ more)
  | .pacing goal began rest pause due =>
    if w.cancelled then some (w.endRound goal false)
    else if w.now < due then none
    else match rest with
      | [] => some (w.wait goal began, [])
      | m :: rest => some (w.send goal began pause m rest)
  | .waiting goal due =>
    if w.cancelled then some (w.endRound goal false)
    else if w.now < due then none
    else some (w.endRound goal true)
  | .draining goal due =>
    if w.pool.isOver then
      some ({ w with leader := .recording goal (w.now + w.policy.grace.millisUp) }, [])
    else if w.now < due then none
    else some ({ w with pool := w.pool.abort, leader := .aborting goal }, [])
  | .aborting goal =>
    if w.pool.isOver then
      some ({ w with leader := .recording goal (w.now + w.policy.grace.millisUp) }, [])
    else none
  | .recording goal due =>
    if w.pool.recorder ≠ .running then some (w.endPool goal, [])
    else if w.now < due then none
    else some ((w.dismiss .aborted).endPool goal, [])
  | .closing =>
    if w.writerIsOver then
      some ({ w with leader := .idle, lifecycle := .stopped }, [.entered .stopped])
    else none

/-! ### The workers -/

/-- A worker runs the check of a service. -/
def check (w : Watch) (i : Nat) (x : Execution) : Watch × List Act :=
  let script := (w.stage.scripts.get? x.job.id).getD default
  let run := Confirmation.runOnce script.next x.job.checker.timeout w.now
  ({ w with
      stage.scripts := w.stage.scripts.insert x.job.id (script.skip 1)
      pool := w.pool.set i (.checking x run.ended run.verdict) },
    [.checked x.job.id])

def moveWorker (w : Watch) (i : Nat) : Option (Watch × List Act) :=
  match w.pool.worker i with
  | .seeking => some ({ w with pool := w.pool.seek i }, [])
  | .inLine | .finished | .aborted => none
  | .listening =>
    (w.pool.listen i).map fun pool =>
      ({ w with pool }, if w.pool.stopped then [] else (w.pool.jobs.head?.map Act.took).toList)
  | .holding job =>
    some (w.check i ⟨job, (w.roster.live job).status, w.pool.confirmation.retries⟩)
  | .checking x due v =>
    if w.now < due then none
    else if Confirmation.goesOn x.previous x.left v then
      let due := w.now + w.pool.confirmation.pause.millisUp
      some ({ w with pool := w.pool.set i (.pausing { x with left := x.left - 1 } due) }, [])
    else some ({ w with pool := w.pool.handIn i x.job v }, [.concluded x.job v])
  | .pausing x due => if w.now < due then none else some (w.check i x)
  | .doomed => some ({ w with pool := w.pool.set i .aborted }, [])

/-! ### The recorder, the writer and the alarm -/

/-- The next step of the recorder. It ends when there is no verdict and nobody left to bring one. -/
def moveRecorder (w : Watch) : Option (Watch × List Act) :=
  if w.pool.recorder ≠ .running then none
  else match w.pool.findings with
    | ⟨job, v⟩ :: rest =>
      let (roster, events) := w.roster.record job v w.instant
      some ({ w with roster, pool.findings := rest, writer := events.foldl .accept w.writer },
        [.recorded job v])
    | [] => if w.pool.isOver then some (w.dismiss .finished, []) else none

def isCommit : Writer.Act → Bool
  | .began _ => true
  | _ => false

def moveWriter (w : Watch) : Option (Watch × List Act) :=
  let hears := w.hears w.writer.stats.retried
  (w.writer.move w.now (w.stage.commits.headD default) hears).map fun (writer, acts) =>
    ({ w with
        writer
        stage.commits := w.stage.commits.drop (acts.filter isCommit).length },
      acts.map .wrote)

/-- The alarm goes off and cancels the rounds. -/
def moveCanceller (w : Watch) : Option (Watch × List Act) :=
  match w.alarm with
  | none => none
  | some due =>
      if w.now < due then none else some ({ w with cancelled := true, alarm := none }, [.cancelled])

/-! ### All tasks -/

/-- The next step of a task, unless it has to wait. -/
def move (w : Watch) : Task → Option (Watch × List Act)
  | .leader => w.moveLeader
  | .worker i => w.moveWorker i
  | .recorder => w.moveRecorder
  | .writer => w.moveWriter
  | .canceller => w.moveCanceller

/-- When a task will go on by itself. -/
def due? (w : Watch) : Task → Option Nat
  | .leader =>
    match w.leader with
    | .sleeping due | .fetching _ _ due | .pacing _ _ _ _ due | .waiting _ due
    | .draining _ due | .recording _ due => some due
    | .idle | .aborting _ | .closing => none
  | .worker i => (w.pool.worker i).due?
  | .recorder => none
  | .writer => w.writer.due?
  | .canceller => w.alarm

/-- All tasks but the leader. -/
def others (w : Watch) : List Task :=
  (List.range w.pool.workers.length).map .worker ++ [.recorder, .writer, .canceller]

end Watch

end Vigil
