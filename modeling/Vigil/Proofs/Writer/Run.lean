import Vigil.Writer.Basic

/-!
Runs of a writer among those who send it events and ask for its end. The steps of all of them come
in any order and at any times that do not decrease, and each commit takes as long and ends as it
likes.

Main definitions: `Writer.Turn`, the steps of the writer one by one; `Writer.Run`, a run with all
that happened in it. Main statements: `Writer.turn_of_move` and `Writer.enact_cases`, nothing else
is done; `Writer.run_of_replay`, what a schedule comes to is a run.
-/

namespace Vigil.Writer

/-! ### What fits in -/

/-- The part of what has been accepted for which there is room. -/
def fitting (w : Writer) : List Event :=
  match w.policy.maxPending with
  | none => w.incoming
  | some m => w.incoming.take (m - w.pending.length)

/-- The part of what has been accepted for which there is no room. -/
def spilling (w : Writer) : List Event :=
  match w.policy.maxPending with
  | none => []
  | some m => w.incoming.drop (m - w.pending.length)

@[simp] theorem fitting_append_spilling (w : Writer) : w.fitting ++ w.spilling = w.incoming := by
  unfold fitting spilling
  cases w.policy.maxPending <;> simp

theorem push_of_isFull {w : Writer} (full : w.isFull = true) (e : Event) :
    w.push e = ({ w with stats.dropped := w.stats.dropped + 1 }, [.dropped e]) := by
  simp [push, full]

theorem push_of_not_isFull {w : Writer} (room : w.isFull = false) (e : Event) :
    w.push e = ({ w with pending := w.pending ++ [e] }, []) := by
  simp [push, room]

theorem retry_of_isFull {w : Writer} (full : w.isFull = true) (now : Nat) (e : Event) :
    w.retry now e =
      ({ w with
          stats.retried := w.stats.retried + 1
          stats.dropped := w.stats.dropped + 1
          phase := .resting (now + w.policy.backoff.millisUp) },
        [.refused e, .dropped e]) := by
  have full' : isFull { w with stats.retried := w.stats.retried + 1 } = true := full
  rw [retry, push_of_isFull full']

theorem retry_of_not_isFull {w : Writer} (room : w.isFull = false) (now : Nat) (e : Event) :
    w.retry now e =
      ({ w with
          stats.retried := w.stats.retried + 1
          pending := w.pending ++ [e]
          phase := .resting (now + w.policy.backoff.millisUp) },
        [.refused e]) := by
  have room' : isFull { w with stats.retried := w.stats.retried + 1 } = false := room
  rw [retry, push_of_not_isFull room']

/-- Events are taken in from the front until there is no room, and the rest is dropped. -/
theorem pushAll_eq (w : Writer) (l : List Event) :
    w.pushAll l =
      ({ w with
          pending := w.pending ++ { w with incoming := l }.fitting
          stats.dropped := w.stats.dropped + { w with incoming := l }.spilling.length },
        { w with incoming := l }.spilling.map .dropped) := by
  induction l generalizing w with
  | nil => cases h : w.policy.maxPending <;> simp [pushAll, fitting, spilling, h]
  | cons e rest ih =>
      cases h : w.policy.maxPending with
      | none =>
          have room : w.isFull = false := by simp [isFull, h]
          simp [pushAll, push_of_not_isFull room, ih, fitting, spilling, h]
      | some m =>
          by_cases le : m ≤ w.pending.length
          · have full : w.isFull = true := by simp [isFull, h, le]
            have none : m - w.pending.length = 0 := by omega
            simp [pushAll, push_of_isFull full, ih, fitting, spilling, h, none]
            omega
          · have room : w.isFull = false := by simp [isFull, h, le]
            have some : m - w.pending.length = m - (w.pending.length + 1) + 1 := by omega
            simp [pushAll, push_of_not_isFull room, ih, fitting, spilling, h, some]

theorem collect_eq (w : Writer) :
    w.collect =
      ({ w with
          incoming := []
          pending := w.pending ++ w.fitting
          stats.dropped := w.stats.dropped + w.spilling.length },
        w.spilling.map .dropped) := by
  rw [collect, pushAll_eq]

/-- What is left at the end is what there is room for, of the events that wait and those that have
been accepted. -/
theorem flush_eq (w : Writer) (now : Nat) :
    w.flush now =
      ({ w with
          accepting := false
          incoming := []
          pending := w.pending ++ w.fitting
          stats.dropped := w.stats.dropped + w.spilling.length
          phase := if (w.pending ++ w.fitting).isEmpty then .finished
            else .flushing (now + w.policy.flushTimeout.millisUp) },
        w.spilling.map .dropped) := by
  rw [flush, collect_eq]
  rfl

/-! ### The steps of a writer -/

def Phase.inHand : Phase → List Event
  | .committing e _ _ | .flushCommitting e _ _ _ => [e]
  | _ => []

theorem Phase.length_inHand (f : Phase) : f.inHand.length ≤ 1 := by
  cases f <;> simp [inHand]

/-- The steps of a writer one by one, with what becomes of events. -/
inductive Turn (w : Writer) (now : Nat) (c : Commit) : Writer → List Act → Prop where
  /-- It finds no event. -/
  | settleDown (phase : w.phase = .ready) (none : w.pending ++ w.fitting = []) :
      Turn w now c
        { w with
          incoming := []
          pending := w.pending ++ w.fitting
          stats.dropped := w.stats.dropped + w.spilling.length
          phase := .waiting }
        (w.spilling.map .dropped)
  /-- It begins with the first event that waits. -/
  | beginFirst {e : Event} {rest : List Event} (phase : w.phase = .ready)
      (first : w.pending ++ w.fitting = e :: rest) :
      Turn w now c
        { w with
          incoming := []
          pending := rest
          stats.dropped := w.stats.dropped + w.spilling.length
          phase := .committing e (now + c.delay) c.outcome }
        (w.spilling.map .dropped ++ [.began e])
  /-- While it waits, an event comes in. -/
  | beginComing {e : Event} {rest : List Event} (phase : w.phase = .waiting)
      (going : w.stopping = false) (first : w.incoming = e :: rest) :
      Turn w now c
        { w with incoming := rest, phase := .committing e (now + c.delay) c.outcome } [.began e]
  /-- It turns to the end. -/
  | turnToEnd (phase : w.phase = .waiting ∨ ∃ due, w.phase = .resting due)
      (ended : w.stopping = true ∨ w.phase = .waiting ∧ w.incoming = [] ∧ w.abandoned = true) :
      Turn w now c
        { w with
          accepting := false
          incoming := []
          pending := w.pending ++ w.fitting
          stats.dropped := w.stats.dropped + w.spilling.length
          phase := if (w.pending ++ w.fitting).isEmpty then .finished
            else .flushing (now + w.policy.flushTimeout.millisUp) }
        (w.spilling.map .dropped)
  | store {e : Event} {due : Nat} (phase : w.phase = .committing e due .stored) (time : due ≤ now) :
      Turn w now c
        { w with stats.committed := w.stats.committed + 1, phase := .ready } [.stored e]
  /-- A failed event goes behind those that wait. -/
  | putBack {e : Event} {due : Nat} (phase : w.phase = .committing e due .refused)
      (time : due ≤ now) (room : w.isFull = false) :
      Turn w now c
        { w with
          stats.retried := w.stats.retried + 1
          pending := w.pending ++ [e]
          phase := .resting (now + w.policy.backoff.millisUp) }
        [.refused e]
  /-- A failed event finds no room. -/
  | spill {e : Event} {due : Nat} (phase : w.phase = .committing e due .refused)
      (time : due ≤ now) (full : w.isFull = true) :
      Turn w now c
        { w with
          stats.retried := w.stats.retried + 1
          stats.dropped := w.stats.dropped + 1
          phase := .resting (now + w.policy.backoff.millisUp) }
        [.refused e, .dropped e]
  /-- The rest is over. -/
  | wake {due : Nat} (phase : w.phase = .resting due) (time : due ≤ now) :
      Turn w now c { w with phase := .ready } []
  /-- At the end nothing is left. -/
  | finish {limit : Nat} (phase : w.phase = .flushing limit) (none : w.pending = []) :
      Turn w now c { w with phase := .finished } []
  | beginLast {e : Event} {rest : List Event} {limit : Nat} (phase : w.phase = .flushing limit)
      (first : w.pending = e :: rest) :
      Turn w now c
        { w with pending := rest, phase := .flushCommitting e (now + c.delay) c.outcome limit }
        [.began e]
  | storeLast {e : Event} {due limit : Nat} (phase : w.phase = .flushCommitting e due .stored limit)
      (time : due ≤ now) :
      Turn w now c
        { w with stats.committed := w.stats.committed + 1, phase := .flushing limit } [.stored e]
  | giveUpLast {e : Event} {due limit : Nat}
      (phase : w.phase = .flushCommitting e due .refused limit) (time : due ≤ now) :
      Turn w now c
        { w with stats.dropped := w.stats.dropped + 1, phase := .flushing limit }
        [.refused e, .dropped e]
  /-- The limit comes before the commit is done: all that wait are dropped. -/
  | cutShort {e : Event} {due limit : Nat} {outcome : Outcome}
      (phase : w.phase = .flushCommitting e due outcome limit) (time : limit ≤ now)
        (early : now < due) :
      Turn w now c
        { w with
          stats.dropped := w.stats.dropped + w.pending.length
          pending := []
          phase := .finished }
        (w.pending.map .dropped)
  | goDown {e : Event} (held : w.phase.inHand = [e]) :
      Turn w now c
        { w with stats := (default : Stats), accepting := false, phase := .crashed } [.refused e]

/-- A writer makes no other steps. -/
theorem turn_of_move {w next : Writer} {now : Nat} {c : Commit} {hears : Bool} {acts : List Act}
    (moved : w.move now c hears = some (next, acts)) : Turn w now c next acts := by
  obtain ⟨policy, incoming, accepting, abandoned, stopping, pending, stats, phase⟩ := w
  cases phase with
  | unstarted | finished | crashed => simp [move] at moved
  | ready =>
      simp only [move, collect_eq] at moved
      split at moved
      · rename_i none
        cases moved
        exact .settleDown rfl none
      · rename_i e rest first
        cases moved
        exact .beginFirst rfl first
  | waiting =>
      cases stopping with
      | true =>
          simp only [move, flush_eq, if_true] at moved
          cases moved
          exact .turnToEnd (.inl rfl) (.inl rfl)
      | false =>
          cases incoming with
          | cons e rest =>
              cases moved
              exact .beginComing rfl rfl rfl
          | nil =>
              cases abandoned with
              | false => cases moved
              | true =>
                  simp only [move, flush_eq] at moved
                  cases moved
                  exact .turnToEnd (.inl rfl) (.inr ⟨rfl, rfl, rfl⟩)
  | committing e due outcome =>
      simp only [move] at moved
      split at moved
      · cases moved
      · rename_i late
        have time : due ≤ now := Nat.le_of_not_lt late
        cases outcome with
        | stored =>
            cases moved
            exact .store rfl time
        | refused =>
            cases full : isFull ⟨policy, incoming, accepting, abandoned, stopping, pending, stats,
                .committing e due .refused⟩ with
            | true =>
                rw [retry_of_isFull full] at moved
                cases moved
                exact .spill rfl time full
            | false =>
                rw [retry_of_not_isFull full] at moved
                cases moved
                exact .putBack rfl time full
        | crash =>
            cases moved
            exact .goDown rfl
  | resting due =>
      simp only [move, flush_eq] at moved
      split at moved
      · rename_i heard
        cases moved
        exact .turnToEnd (.inr ⟨due, rfl⟩) (.inl (Bool.and_eq_true_iff.mp heard).1)
      · split at moved
        · cases moved
        · rename_i late
          cases moved
          exact .wake rfl (Nat.le_of_not_lt late)
  | flushing limit =>
      cases pending with
      | nil =>
          cases moved
          exact .finish rfl rfl
      | cons e rest =>
          cases moved
          exact .beginLast rfl rfl
  | flushCommitting e due outcome limit =>
      simp only [move] at moved
      split at moved
      · rename_i time
        cases outcome with
        | stored =>
            cases moved
            exact .storeLast rfl time
        | refused =>
            cases moved
            exact .giveUpLast rfl time
        | crash =>
            cases moved
            exact .goDown rfl
      · rename_i early
        split at moved
        · rename_i past
          cases moved
          exact .cutShort rfl past (Nat.lt_of_not_le early)
        · cases moved

/-! ### Runs -/

inductive Deed where
  | start
  | send (e : Event)
  | abandon
  | stop
  /-- The writer goes on; `c` is what a commit that begins now will do, and after a rest the writer
  hears or does not hear that its end has been asked for. -/
  | proceed (c : Commit) (hears : Bool)

/-- A deed that has been done: when, the writer before and after it, the events that were accepted,
and what became of events. -/
structure Moment where
  now : Nat
  before : Writer
  accepted : List Event
  acts : List Act
  after : Writer

/-- Do something, unless the writer has to wait. -/
def enact (w : Writer) (now : Nat) : Deed → Option Moment
  | .start => some ⟨now, w, [], [], w.start⟩
  | .send e => some ⟨now, w, if w.accepting then [e] else [], [], w.accept e⟩
  | .abandon => some ⟨now, w, [], [], w.abandon⟩
  | .stop => some ⟨now, w, [], [], w.stop⟩
  | .proceed c hears => (w.move now c hears).map fun (next, acts) => ⟨now, w, [], acts, next⟩

/-- All that has been done, the first deed first. -/
abbrev History := List Moment

/-- A run: how a writer comes to be what it is by deeds one after the other. -/
inductive Run (p : Policy) : History → Writer → Prop where
  | start : Run p [] (.ofPolicy p)
  | step {past : History} {w : Writer} {now : Nat} {d : Deed} {m : Moment} (run : Run p past w)
      (later : ∀ m' ∈ past, m'.now ≤ now) (done : w.enact now d = some m) :
      Run p (past ++ [m]) m.after

def replay (w : Writer) : List (Nat × Deed) → Option History
  | [] => some []
  | (now, d) :: rest => do
    let m ← w.enact now d
    return m :: (← replay m.after rest)

def atEnd (w : Writer) (past : History) : Writer := past.foldl (fun _ m => m.after) w

/-- What others do: they may send an event, and the writer's own work stays as it is. -/
structure Aside (w : Writer) (accepted : List Event) (next : Writer) : Prop where
  policy : next.policy = w.policy
  phase : next.phase = w.phase ∨ w.phase = .unstarted ∧ next.phase = .ready
  pending : next.pending = w.pending
  stats : next.stats = w.stats
  incoming : next.incoming = w.incoming ++ accepted
  accepting : next.accepting = w.accepting
  closed : w.accepting = false → accepted = []

theorem Aside.inHand {w next : Writer} {accepted : List Event} (aside : Aside w accepted next) :
    next.phase.inHand = w.phase.inHand := by
  rcases aside.phase with h | ⟨h, h'⟩
  · rw [h]
  · rw [h, h']
    rfl

/-- A deed is a step of the writer or something that others do. -/
theorem enact_cases {w : Writer} {now : Nat} {d : Deed} {m : Moment}
    (done : w.enact now d = some m) :
    (∃ c next acts, Turn w now c next acts ∧ m = ⟨now, w, [], acts, next⟩) ∨
      ∃ accepted next, Aside w accepted next ∧ m = ⟨now, w, accepted, [], next⟩ := by
  cases d with
  | proceed c hears =>
      obtain ⟨⟨next, acts⟩, moved, rfl⟩ := Option.map_eq_some_iff.mp done
      exact .inl ⟨c, next, acts, turn_of_move moved, rfl⟩
  | start =>
      cases done
      refine .inr ⟨_, _, ?_, rfl⟩
      by_cases phase : w.phase = .unstarted
      · rw [start, if_pos phase]
        exact ⟨rfl, .inr ⟨phase, rfl⟩, rfl, rfl, by simp, rfl, fun _ => rfl⟩
      · rw [start, if_neg phase]
        exact ⟨rfl, .inl rfl, rfl, rfl, by simp, rfl, fun _ => rfl⟩
  | send e =>
      cases done
      refine .inr ⟨_, _, ?_, rfl⟩
      cases accepts : w.accepting with
      | false =>
          simp only [accept, accepts, Bool.false_eq_true, if_false]
          exact ⟨rfl, .inl rfl, rfl, rfl, by simp, rfl, fun _ => rfl⟩
      | true =>
          simp only [accept, accepts, if_true]
          exact ⟨rfl, .inl rfl, rfl, rfl, rfl, accepts.symm, fun h => by simp [accepts] at h⟩
  | abandon | stop =>
      cases done
      refine .inr ⟨_, _, ?_, rfl⟩
      exact ⟨rfl, .inl rfl, rfl, rfl, (List.append_nil _).symm, rfl, fun _ => rfl⟩

theorem now_of_enact {w : Writer} {now : Nat} {d : Deed} {m : Moment}
    (done : w.enact now d = some m) : m.now = now := by
  rcases enact_cases done with ⟨_, _, _, -, rfl⟩ | ⟨_, _, -, rfl⟩ <;> rfl

theorem before_of_enact {w : Writer} {now : Nat} {d : Deed} {m : Moment}
    (done : w.enact now d = some m) : m.before = w := by
  rcases enact_cases done with ⟨_, _, _, -, rfl⟩ | ⟨_, _, -, rfl⟩ <;> rfl

/-- What has been done is earlier than what is still on a schedule, also after the next deed of
it. -/
theorem earlier_append {α : Type} {time : α → Nat} {before : History} {m : Moment} {a : α}
    {rest : List α} (earlier : ∀ m' ∈ before, ∀ b ∈ a :: rest, m'.now ≤ time b)
    (now : m.now = time a) (later : ∀ b ∈ rest, time a ≤ time b) :
    ∀ m' ∈ before ++ [m], ∀ b ∈ rest, m'.now ≤ time b := by
  intro m' mem b hb
  rcases List.mem_append.mp mem with mem | mem
  · exact earlier m' mem b (List.mem_cons_of_mem _ hb)
  · rw [List.mem_singleton.mp mem, now]
    exact later b hb

/-- What a schedule comes to is a run, if its times do not decrease. -/
theorem run_of_replay (p : Policy) (schedule : List (Nat × Deed)) {past : History}
    (ordered : schedule.Pairwise fun a b => a.1 ≤ b.1)
    (replayed : replay (.ofPolicy p) schedule = some past) :
    Run p past (atEnd (.ofPolicy p) past) := by
  suffices extend : ∀ (before : History) (w : Writer), Run p before w →
      (∀ m ∈ before, ∀ a ∈ schedule, m.now ≤ a.1) → replay w schedule = some past →
      Run p (before ++ past) (atEnd w past) by
    simpa using extend [] _ .start (by simp) replayed
  clear replayed
  induction schedule generalizing past with
  | nil =>
      intro before w run _ replayed
      cases replayed
      simpa [atEnd] using run
  | cons a rest ih =>
      intro before w run earlier replayed
      obtain ⟨later, ordered⟩ := List.pairwise_cons.mp ordered
      simp only [replay, Option.bind_eq_bind, Option.bind_eq_some_iff, Option.pure_def,
        Option.some.injEq] at replayed
      obtain ⟨m, done, more, tail, rfl⟩ := replayed
      have step := Run.step run (fun m' h => earlier m' h _ List.mem_cons_self) done
      rw [List.append_cons]
      exact ih ordered (before ++ [m]) m.after step
        (earlier_append earlier (now_of_enact done) later) tail

end Vigil.Writer
