import Vigil.Clock.Duration
import Vigil.Service.Event

/-!
The one task that writes events to the datastore, on a clock of whole milliseconds. Events are
committed one by one. One that fails goes behind all others that wait, and the writer rests before
it goes on. In the end all events that are left are tried once more, within a limit.

The writer moves in small steps, so that its steps and those of others may come in any order.
-/

namespace Vigil

open Vigil.Clock

namespace Writer

structure Policy where
  /-- The rest after a failure. -/
  backoff : Duration
  /-- How long the end may take. -/
  flushTimeout : Duration
  /-- How many events may wait; all that come, if it is not set. -/
  maxPending : Option Nat
deriving DecidableEq, Repr, Inhabited

/-- How many events have met which fate. -/
structure Stats where
  committed : Nat
  retried : Nat
  dropped : Nat
deriving DecidableEq, Repr

instance : Inhabited Stats := ⟨⟨0, 0, 0⟩⟩

inductive Outcome where
  | stored
  | refused
  /-- It takes the writer down. -/
  | crash
deriving DecidableEq, Repr, Inhabited

/-- What a commit does: it takes some milliseconds, and then ends. -/
structure Commit where
  delay : Nat
  outcome : Outcome
deriving DecidableEq, Repr, Inhabited

inductive Phase where
  /-- It has not been started. -/
  | unstarted
  /-- It is about to look for events. -/
  | ready
  /-- It has found none. -/
  | waiting
  | committing (event : Event) (due : Nat) (outcome : Outcome)
  /-- It rests after a failure. -/
  | resting (due : Nat)
  /-- It tries all that is left. -/
  | flushing (limit : Nat)
  | flushCommitting (event : Event) (due : Nat) (outcome : Outcome) (limit : Nat)
  | finished
  | crashed
deriving DecidableEq, Repr, Inhabited

inductive Act where
  | began (e : Event)
  | stored (e : Event)
  | refused (e : Event)
  | dropped (e : Event)
deriving DecidableEq, Repr

end Writer

/-- The task that writes events. -/
structure Writer where
  policy : Writer.Policy
  /-- Events that have been accepted and not yet looked at. -/
  incoming : List Event
  /-- Whether events are still accepted. -/
  accepting : Bool
  /-- Whether nobody is left to send events. -/
  abandoned : Bool
  /-- Whether the end has been asked for. -/
  stopping : Bool
  /-- Events that wait for being committed. -/
  pending : List Event
  stats : Writer.Stats
  phase : Writer.Phase
deriving DecidableEq, Repr

namespace Writer

def ofPolicy (p : Policy) : Writer := ⟨p, [], true, false, false, [], default, .unstarted⟩

instance : Inhabited Writer := ⟨ofPolicy default⟩

/-! ### What others do -/

def start (w : Writer) : Writer := if w.phase = .unstarted then { w with phase := .ready } else w

/-- Send an event. It is lost if none are accepted any more. -/
def accept (w : Writer) (e : Event) : Writer :=
  if w.accepting then { w with incoming := w.incoming ++ [e] } else w

def abandon (w : Writer) : Writer := { w with abandoned := true }

def stop (w : Writer) : Writer := { w with stopping := true }

/-! ### What the writer does -/

/-- Whether the writer holds as many events as it may. -/
def isFull (w : Writer) : Bool := w.policy.maxPending.any (· ≤ w.pending.length)

/-- Put an event behind those that wait, if there is room. -/
def push (w : Writer) (e : Event) : Writer × List Act :=
  if w.isFull then ({ w with stats.dropped := w.stats.dropped + 1 }, [.dropped e])
  else ({ w with pending := w.pending ++ [e] }, [])

def pushAll (w : Writer) : List Event → Writer × List Act
  | [] => (w, [])
  | e :: rest =>
    let (w, acts) := w.push e
    let (w, more) := w.pushAll rest
    (w, acts ++ more)

/-- Look at all events that have been accepted. -/
def collect (w : Writer) : Writer × List Act :=
  ({ w with incoming := [] } : Writer).pushAll w.incoming

def begin (w : Writer) (now : Nat) (c : Commit) (e : Event) : Writer × List Act :=
  ({ w with phase := .committing e (now + c.delay) c.outcome }, [.began e])

/-- Accept no more events, and try those that are left within a limit. -/
def flush (w : Writer) (now : Nat) : Writer × List Act :=
  let (w, acts) := ({ w with accepting := false } : Writer).collect
  ({ w with phase :=
      if w.pending.isEmpty then .finished else .flushing (now + w.policy.flushTimeout.millisUp) },
        acts)

def settle (w : Writer) (e : Event) (phase : Phase) : Writer × List Act :=
  ({ w with stats.committed := w.stats.committed + 1, phase }, [.stored e])

def crash (w : Writer) (e : Event) : Writer × List Act :=
  ({ w with stats := (default : Stats), accepting := false, phase := .crashed }, [.refused e])

/-- An event has failed: it goes to the end of those that wait, and the writer rests. -/
def retry (w : Writer) (now : Nat) (e : Event) : Writer × List Act :=
  let (w, acts) := ({ w with stats.retried := w.stats.retried + 1 } : Writer).push e
  ({ w with phase := .resting (now + w.policy.backoff.millisUp) }, .refused e :: acts)

/-- An event has failed in the end: it is dropped. -/
def giveUp (w : Writer) (e : Event) (limit : Nat) : Writer × List Act :=
  ({ w with stats.dropped := w.stats.dropped + 1, phase := .flushing limit },
    [.refused e, .dropped e])

/-- The end has taken too long: all that wait are dropped. -/
def cutOff (w : Writer) : Writer × List Act :=
  ({ w with
      stats.dropped := w.stats.dropped + w.pending.length
      pending := []
      phase := .finished },
    w.pending.map .dropped)

/-- The next step of the writer, unless it has to wait; `c` is what a commit that begins now will
do. Where a rest is over and the end has been asked for, the writer takes what it `hears` first:
that the end has been asked for, or that its rest is over. -/
def move (w : Writer) (now : Nat) (c : Commit) (hears : Bool) : Option (Writer × List Act) :=
  match w.phase with
  | .unstarted | .finished | .crashed => none
  | .ready =>
    let (w, acts) := w.collect
    match w.pending with
    | [] => some ({ w with phase := .waiting }, acts)
    | e :: rest =>
      let (w, more) := ({ w with pending := rest } : Writer).begin now c e
      some (w, acts ++ more)
  | .waiting =>
    if w.stopping then some (w.flush now)
    else match w.incoming with
      | e :: rest => some (({ w with incoming := rest } : Writer).begin now c e)
      | [] => if w.abandoned then some (w.flush now) else none
  | .committing e due outcome =>
    if now < due then none
    else some (match outcome with
      | .stored => w.settle e .ready
      | .refused => w.retry now e
      | .crash => w.crash e)
  | .resting due =>
    if w.stopping && (hears || now < due) then some (w.flush now)
    else if now < due then none
    else some ({ w with phase := .ready }, [])
  | .flushing limit =>
    match w.pending with
    | [] => some ({ w with phase := .finished }, [])
    | e :: rest =>
      some ({ w with pending := rest, phase := .flushCommitting e (now + c.delay) c.outcome limit },
        [.began e])
  | .flushCommitting e due outcome limit =>
    if due ≤ now then
      some (match outcome with
        | .stored => w.settle e (.flushing limit)
        | .refused => w.giveUp e limit
        | .crash => w.crash e)
    else if limit ≤ now then some w.cutOff
    else none

def due? (w : Writer) : Option Nat :=
  match w.phase with
  | .committing _ due _ | .resting due => some due
  | .flushCommitting _ due _ limit => some (min due limit)
  | _ => none

def isOver (w : Writer) : Bool := w.phase = .finished || w.phase = .crashed

end Writer

end Vigil
