import Mathlib.Data.List.Chain
import Vigil.Proofs.Writer.Order

/-!
What a writer begins to commit after its end has been asked for.

A writer that has been told to stop does not hear it between two commits: it goes on until it has to
rest after a failure or no event waits, and only then turns to the end, which has a limit. After a
rest that takes no time it may go on as well. Main statement: `Writer.begun_after_stop`, with the
exact criterion for a writer that begins nothing outside that limit.
-/

namespace Vigil.Writer

/-! ### Commits that begin -/

@[simp] def Act.began? : Act → Option Event
  | .began e => some e
  | _ => none

@[simp] theorem Act.filterMap_began?_dropped (l : List Event) :
    l.filterMap (began? ∘ Act.dropped) = [] := by
  simp [List.filterMap_eq_nil_iff]

def Moment.begun (m : Moment) : List Event := m.acts.filterMap Act.began?

/-- The limit of the end, once the writer has turned to it. -/
def Phase.limit? : Phase → Option Nat
  | .flushing limit | .flushCommitting _ _ _ limit => some limit
  | _ => none

def Moment.turnsToEnd (m : Moment) : Bool := !m.before.phase.isLast && m.after.phase.isLast

/-- Before the end, the writer looks for the next event. -/
def Moment.looks (m : Moment) : Prop := m.before.phase = .ready ∧ m.after.phase ≠ .ready

/-- A commit fails and the writer has to rest, or the writer finds no event. -/
def Moment.breaks (m : Moment) : Prop :=
  m.refused ≠ [] ∧ 0 < m.before.policy.backoff.millisUp ∨
    m.before.phase = .ready ∧ m.after.phase = .waiting

/-! ### A writer that is not late -/

/-- The writer is not late: it does not miss the moment for which it waits, and no time passes while
it is able to go on. -/
structure History.InTime (past : History) : Prop where
  onTime : ∀ m ∈ past, ∀ due ∈ m.before.due?, m.now ≤ due
  still : past.IsChain fun m m' => (m.after.move m.now default true).isSome = true → m'.now = m.now

instance (past : History) : Decidable past.InTime :=
  decidable_of_iff ((∀ m ∈ past, ∀ due ∈ m.before.due?, m.now ≤ due) ∧
      past.IsChain fun m m' => (m.after.move m.now default true).isSome = true → m'.now = m.now)
    ⟨fun ⟨onTime, still⟩ => ⟨onTime, still⟩, fun inTime => ⟨inTime.onTime, inTime.still⟩⟩

theorem History.InTime.of_append {past later : History} (inTime : InTime (past ++ later)) :
    InTime past where
  onTime m mem := inTime.onTime m (List.mem_append_left _ mem)
  still := inTime.still.left_of_append

/-! ### One deed -/

section Deeds

variable {w next : Writer} {now : Nat} {c : Commit} {acts : List Act} {d : Deed} {m : Moment}

/-- A step keeps the settings, and whether the end has been asked for. -/
theorem Turn.keeps (turn : Turn w now c next acts) :
    next.policy = w.policy ∧ next.stopping = w.stopping := by
  cases turn <;> exact ⟨rfl, rfl⟩

theorem policy_of_enact (done : w.enact now d = some m) : m.after.policy = w.policy := by
  rcases enact_cases done with ⟨c, next, acts, turn, rfl⟩ | ⟨accepted, next, aside, rfl⟩
  · exact turn.keeps.1
  · exact aside.policy

/-- Nobody takes back that the end has been asked for. -/
theorem stopping_of_enact (done : w.enact now d = some m) (asked : w.stopping = true) :
    m.after.stopping = true := by
  cases d with
  | proceed c hears =>
      obtain ⟨⟨next, acts⟩, moved, rfl⟩ := Option.map_eq_some_iff.mp done
      exact (turn_of_move moved).keeps.2.trans asked
  | start =>
      cases done
      simp only [start]
      split
      · exact asked
      · exact asked
  | send e =>
      cases done
      simp only [accept]
      split
      · exact asked
      · exact asked
  | abandon =>
      cases done
      exact asked
  | stop =>
      cases done
      rfl

/-- A commit begins where the writer looks for events, while it waits for one, or at the end. -/
theorem of_begun (done : w.enact now d = some m) (begins : m.begun ≠ []) :
    (w.phase = .ready ∧ m.looks ∧ ∃ e rest, w.pending ++ w.fitting = e :: rest ∧ m.begun = [e]) ∨
      (w.phase = .waiting ∧ w.stopping = false) ∨ ∃ limit, w.phase = .flushing limit := by
  rcases enact_cases done with ⟨c, next, acts, turn, rfl⟩ | ⟨accepted, next, aside, rfl⟩
  · cases turn with
    | beginFirst phase first =>
        refine .inl ⟨phase, ⟨phase, nofun⟩, _, _, first, ?_⟩
        simp [Moment.begun]
    | beginComing phase going => exact .inr (.inl ⟨phase, going⟩)
    | beginLast phase => exact .inr (.inr ⟨_, phase⟩)
    | settleDown | turnToEnd | store | putBack | spill | wake | finish | storeLast | giveUpLast
    | cutShort | goDown => exact absurd (by simp [Moment.begun]) begins
  · exact absurd rfl begins

/-- A writer that looks for events begins with the first one that waits. -/
theorem begun_of_looks (done : w.enact now d = some m) (looks : m.looks)
    (waits : w.pending ++ w.fitting ≠ []) : m.begun ≠ [] := by
  obtain ⟨ready, gone⟩ := looks
  rcases enact_cases done with ⟨c, next, acts, turn, rfl⟩ | ⟨accepted, next, aside, rfl⟩
  · change w.phase = .ready at ready
    cases turn with
    | settleDown _ none => exact absurd none waits
    | beginFirst => simp [Moment.begun]
    | turnToEnd phase => rcases phase with phase | ⟨_, phase⟩ <;> cases ready.symm.trans phase
    | goDown held => simp [ready, Phase.inHand] at held
    | beginComing phase | store phase | putBack phase | spill phase | wake phase | finish phase
    | beginLast phase | storeLast phase | giveUpLast phase | cutShort phase =>
        cases ready.symm.trans phase
  · rcases aside.phase with same | ⟨unstarted, -⟩
    · exact absurd (same.trans ready) gone
    · cases ready.symm.trans unstarted

end Deeds

/-! ### Whole runs -/

variable {p : Policy} {past : History} {w : Writer}

theorem Run.policy (run : Run p past w) : w.policy = p := by
  induction run with
  | start => rfl
  | step _ _ done ih => exact (policy_of_enact done).trans ih

/-- What has been done up to a moment is a run. -/
theorem Run.upto {earlier later : History} {m : Moment} (run : Run p past w)
    (split : past = earlier ++ m :: later) : Run p (earlier ++ [m]) m.after := by
  induction run generalizing later with
  | start => exact absurd split (by simp)
  | @step past w now d last run after done ih =>
      rcases List.eq_nil_or_concat' later with rfl | ⟨later, last', rfl⟩
      · obtain ⟨rfl, same⟩ := List.append_inj' split rfl
        cases same
        exact run.step after done
      · rw [← List.cons_append, ← List.append_assoc] at split
        exact ih (List.append_inj' split rfl).1

/-- Each deed of a run is done to the writer that the deeds before it have left. -/
theorem Run.here {earlier later : History} {m : Moment} (run : Run p past w)
    (split : past = earlier ++ m :: later) :
    Run p earlier m.before ∧ ∃ d, m.before.enact m.now d = some m := by
  have upto := run.upto split
  generalize whole : earlier ++ [m] = done, m.after = next at upto
  cases upto with
  | start => exact absurd whole (by simp)
  | @step _ _ _ d _ before _ last =>
      obtain ⟨rfl, same⟩ := List.append_inj' whole rfl
      cases same
      rw [before_of_enact last]
      exact ⟨before, d, now_of_enact last ▸ last⟩

/-- No time passes while the writer is able to go on. -/
theorem History.InTime.next {m m' : Moment} (inTime : InTime (past ++ [m] ++ [m']))
    (able : (m.after.move m.now default true).isSome = true) : m'.now = m.now := by
  refine (List.isChain_append.mp inTime.still).2.2 m ?_ m' rfl able
  simp

theorem isSome_move_of_flushing {now limit : Nat} {c : Commit} {hears : Bool}
    (flushing : w.phase = .flushing limit) : (w.move now c hears).isSome = true := by
  rw [move, flushing]
  dsimp only
  split <;> rfl

/-- A writer that rests hears that its end has been asked for. -/
theorem isSome_move_of_resting {now due : Nat} {c : Commit} (asked : w.stopping = true)
    (resting : w.phase = .resting due) : (w.move now c true).isSome = true := by
  simp [move, resting, asked]

/-- The limit of the end counts from the moment at which the writer turns to it, and what a writer
that is in time does about the next event comes no later. -/
theorem Run.limited (run : Run p past w) (inTime : past.InTime) {limit : Nat}
    (last : w.phase.limit? = some limit) :
    (∃ s ∈ past, s.turnsToEnd = true ∧ limit = s.now + p.flushTimeout.millisUp) ∧
      (w.phase = .flushing limit → ∀ m, History.InTime (past ++ [m]) → m.now ≤ limit) := by
  induction run with
  | start => cases last
  | @step past w now d m run _ done ih =>
      have ih := ih inTime.of_append
      -- what was known of the limit before is still known
      have kept (same : w.phase.limit? = some limit) :
          ∃ s ∈ past ++ [m], s.turnsToEnd = true ∧ limit = s.now + p.flushTimeout.millisUp := by
        obtain ⟨s, mem, turns⟩ := (ih same).1
        exact ⟨s, List.mem_append_left _ mem, turns⟩
      suffices here : (∃ s ∈ past ++ [m], s.turnsToEnd = true ∧
          limit = s.now + p.flushTimeout.millisUp) ∧
          (m.after.phase = .flushing limit → m.now ≤ limit) from
        ⟨here.1, fun flushing m' inTime' =>
          inTime'.next (isSome_move_of_flushing flushing) ▸ here.2 flushing⟩
      rcases enact_cases done with ⟨c, next, acts, turn, rfl⟩ | ⟨accepted, next, aside, rfl⟩
      · cases turn with
        | turnToEnd phase =>
            have main : w.phase.isLast = false := by rcases phase with h | ⟨_, h⟩ <;> rw [h] <;> rfl
            dsimp only at last
            split at last
            · cases last
            · rename_i more
              cases last
              refine ⟨⟨_, List.mem_append_right _ List.mem_cons_self, ?_, ?_⟩,
                fun _ => Nat.le_add_right _ _⟩
              · simp only [Moment.turnsToEnd, main, if_neg more]
                rfl
              · rw [run.policy]
        | beginLast phase =>
            cases last
            exact ⟨kept (by rw [phase]; rfl), nofun⟩
        | storeLast phase | giveUpLast phase =>
            cases last
            refine ⟨kept (by rw [phase]; rfl), fun _ => ?_⟩
            have due := inTime.onTime _ (List.mem_append_right _ List.mem_cons_self) _
              (show _ ∈ w.due? by simp [due?, phase]; rfl)
            exact Nat.le_trans due (Nat.min_le_right _ _)
        | settleDown | beginFirst | beginComing | store | putBack | spill | wake | finish | cutShort
        | goDown => cases last
      · rcases aside.phase with same | ⟨-, ready⟩
        · have last : w.phase.limit? = some limit := same ▸ last
          exact ⟨kept last, fun flushing => (ih last).2 (same ▸ flushing) _ inTime⟩
        · change next.phase.limit? = some limit at last
          rw [ready] at last
          cases last

/-- The phases from which at a time a writer whose end has been asked for does not look for events
again. -/
def Phase.isSpent (now : Nat) : Phase → Bool
  | .waiting | .crashed => true
  | .resting due => now < due
  | f => f.isLast

/-- At a time a writer looks for no more events before the end, which has been asked for. -/
structure Spent (w : Writer) (now : Nat) : Prop where
  asked : w.stopping = true
  phase : w.phase.isSpent now = true

section Spent

variable {d : Deed} {now : Nat} {m m' : Moment}

/-- Nothing that is done at the same time sets a spent writer to look for events again. -/
theorem Spent.enact (spent : Spent w now) (done : w.enact now d = some m) : Spent m.after now := by
  have here := spent.phase
  refine ⟨stopping_of_enact done spent.asked, ?_⟩
  rcases enact_cases done with ⟨c, next, acts, turn, rfl⟩ | ⟨accepted, next, aside, rfl⟩
  · cases turn with
    | turnToEnd =>
        dsimp only
        split <;> rfl
    | finish | beginLast | storeLast | giveUpLast | cutShort | goDown | settleDown => rfl
    | beginFirst phase | store phase | putBack phase | spill phase =>
        simp [phase, Phase.isSpent, Phase.isLast] at here
    | beginComing _ going => cases spent.asked.symm.trans going
    | wake phase time =>
        rw [phase] at here
        exact absurd (of_decide_eq_true here) (Nat.not_lt_of_le time)
  · rcases aside.phase with same | ⟨unstarted, -⟩
    · exact (congrArg (Phase.isSpent now) same).trans here
    · rw [unstarted] at here
      cases here

/-- A writer is spent by a failure after which it has to rest, and when it finds no event. -/
theorem Spent.of_breaks (done : w.enact now d = some m) (asked : w.stopping = true)
    (breaks : m.breaks) : Spent m.after now := by
  refine ⟨stopping_of_enact done asked, ?_⟩
  rcases breaks with ⟨fails, long⟩ | ⟨-, waiting⟩
  · rcases enact_cases done with ⟨c, next, acts, turn, rfl⟩ | ⟨accepted, next, aside, rfl⟩
    · cases turn with
      | putBack | spill => exact decide_eq_true (Nat.lt_add_of_pos_right long)
      | giveUpLast | goDown => rfl
      | settleDown | beginFirst | beginComing | turnToEnd | store | wake | finish | beginLast
      | storeLast | cutShort => exact absurd (by simp [Moment.refused]) fails
    · exact absurd rfl fails
  · rw [waiting]
    rfl

/-- A writer in time does not let its rest go by. -/
theorem Spent.next (spent : Spent m.after m.now) (inTime : History.InTime (past ++ [m] ++ [m'])) :
    Spent m.after m'.now := by
  refine ⟨spent.asked, ?_⟩
  have phase := spent.phase
  cases here : m.after.phase with
  | resting due =>
      rw [inTime.next (isSome_move_of_resting spent.asked here), ← here]
      exact phase
  | unstarted | ready | waiting | committing | flushing | flushCommitting | finished | crashed =>
      rw [here] at phase
      exact phase

end Spent

/-- Once a writer whose end has been asked for has had to rest or has found no event, it looks for
no more events before the end, if it is in time. -/
theorem Run.spent (run : Run p past w) (broken : ∃ x ∈ past, x.before.stopping = true ∧ x.breaks)
    {m : Moment} (inTime : History.InTime (past ++ [m])) : Spent w m.now := by
  induction run generalizing m with
  | start => exact absurd broken (by simp)
  | @step past w now d last _ _ done ih =>
      refine Spent.next ?_ inTime
      have time := now_of_enact done
      obtain ⟨x, mem, asked, breaks⟩ := broken
      rcases List.mem_append.mp mem with mem | mem
      · have spent := ih ⟨x, mem, asked, breaks⟩ inTime.of_append
        exact time ▸ (time ▸ spent).enact done
      · cases List.mem_singleton.mp mem
        exact time ▸ .of_breaks done (before_of_enact done ▸ asked) breaks

/-- After its end has been asked for, a writer begins commits at the end and within its limit, or
before the end, as long as since then each look has found an event and each commit has succeeded, or
else a rest takes no time. It begins none before the end exactly if no event waits whenever it looks
for one. -/
theorem begun_after_stop (run : Run p past w) (inTime : past.InTime) :
    (∀ earlier m later, past = earlier ++ m :: later → m.before.stopping = true → m.begun ≠ [] →
      (∃ limit, m.before.phase = .flushing limit ∧ ∃ s ∈ earlier, s.turnsToEnd = true ∧
        limit = s.now + p.flushTimeout.millisUp ∧ m.now ≤ limit) ∨
      m.looks ∧ (∃ e rest, m.before.pending ++ m.before.fitting = e :: rest ∧ m.begun = [e]) ∧
        ∀ x ∈ earlier, x.before.stopping = true → ¬ x.breaks) ∧
    ((∀ m ∈ past, m.before.stopping = true → m.begun ≠ [] →
        ∃ limit, m.before.phase = .flushing limit) ↔
      ∀ m ∈ past, m.before.stopping = true → m.looks →
        m.before.pending ++ m.before.fitting = []) := by
  refine ⟨?_, ?_, ?_⟩
  · intro earlier m later split asked begins
    obtain ⟨before, d, done⟩ := run.here split
    rw [split, List.append_cons] at inTime
    have here := inTime.of_append
    rcases of_begun done begins with ⟨ready, looks, first⟩ | ⟨-, going⟩ | ⟨limit, flushing⟩
    · refine .inr ⟨looks, first, fun x mem asked breaks => ?_⟩
      have spent := (before.spent ⟨x, mem, asked, breaks⟩ here).phase
      rw [ready] at spent
      cases spent
    · cases asked.symm.trans going
    · obtain ⟨⟨s, mem, turns, rfl⟩, onTime⟩ := before.limited here.of_append (by rw [flushing]; rfl)
      exact .inl ⟨_, flushing, s, mem, turns, rfl, onTime flushing m here⟩
  · intro only m mem asked looks
    obtain ⟨earlier, later, split⟩ := List.append_of_mem mem
    obtain ⟨-, d, done⟩ := run.here split
    by_contra waits
    obtain ⟨limit, flushing⟩ := only m mem asked (begun_of_looks done looks waits)
    cases looks.1.symm.trans flushing
  · intro none m mem asked begins
    obtain ⟨earlier, later, split⟩ := List.append_of_mem mem
    obtain ⟨-, d, done⟩ := run.here split
    rcases of_begun done begins with ⟨-, looks, e, rest, first, -⟩ | ⟨-, going⟩ | flushing
    · rw [none m mem asked looks] at first
      cases first
    · cases asked.symm.trans going
    · exact flushing

/-! ### A backlog at the end -/

instance (m : Moment) : Decidable m.looks :=
  inferInstanceAs (Decidable (m.before.phase = .ready ∧ m.after.phase ≠ .ready))

/-- Where a schedule comes to something of a kind, there is a run that does. -/
theorem exists_run (p : Policy) (schedule : List (Nat × Deed))
    (ordered : schedule.Pairwise fun a b => a.1 ≤ b.1) (q : History → Prop)
    [∀ past, Decidable (q past)] (happens : (replay (.ofPolicy p) schedule).any (q ·) = true) :
    ∃ past w, Run p past w ∧ q past := by
  obtain ⟨past, replayed, check⟩ := (Option.any_eq_true _ _).mp happens
  exact ⟨past, _, run_of_replay p schedule ordered replayed, of_decide_eq_true check⟩

/-- Two events wait, and the end is asked for while the first one is committed. The second one
fails, is put back, and is tried once more at the end. -/
def failingBacklog : List (Nat × Deed) :=
  [(0, .start), (0, .send default), (0, .send default), (0, .proceed ⟨1000, .stored⟩ true),
    (500, .stop),
    (1000, .proceed default true), (1000, .proceed ⟨0, .refused⟩ true),
    (1000, .proceed default true),
    (1000, .proceed default true), (1000, .proceed ⟨400, .stored⟩ true),
    (1400, .proceed default true)]

theorem failingBacklog_begun :
    ∃ past w, Run briefEnd past w ∧ past.InTime ∧
      (∃ m ∈ past, m.before.stopping = true ∧ m.looks ∧ m.begun ≠ []) ∧
      ∃ m ∈ past, m.before.stopping = true ∧ m.begun ≠ [] ∧ m.before.phase = .flushing 2000 ∧
        ∃ s ∈ past, s.turnsToEnd = true ∧ s.now = 1000 ∧ m.now ≤ 2000 := by
  obtain ⟨past, w, run, inTime, early, m, mem, asked, begins, flushing⟩ :=
    exists_run briefEnd failingBacklog (by decide)
      (fun past => past.InTime ∧
        (∃ m ∈ past, m.before.stopping = true ∧ m.looks ∧ m.begun ≠ []) ∧
        ∃ m ∈ past, m.before.stopping = true ∧ m.begun ≠ [] ∧ m.before.phase = .flushing 2000)
      (by decide +kernel)
  refine ⟨past, w, run, inTime, early, m, mem, asked, begins, flushing, ?_⟩
  obtain ⟨earlier, later, split⟩ := List.append_of_mem mem
  rcases (begun_after_stop run inTime).1 earlier m later split asked begins with
    ⟨limit, here, s, before, turns, start, onTime⟩ | ⟨looks, -⟩
  · cases flushing.symm.trans here
    have second : briefEnd.flushTimeout.millisUp = 1000 := by decide
    exact ⟨s, split ▸ List.mem_append_left _ before, turns, by omega, onTime⟩
  · cases flushing.symm.trans looks.1

def restless : Policy := { briefEnd with backoff := default }

/-- Three events wait, and the end is asked for while the first one is committed. It fails, and the
writer does not hear that it is to end. -/
def unheardStop : List (Nat × Deed) :=
  [(0, .start), (0, .send default), (0, .send default), (0, .send default),
    (0, .proceed ⟨1000, .refused⟩ true), (500, .stop), (1000, .proceed default true),
    (1000, .proceed default false),
    (1000, .proceed ⟨1000, .stored⟩ true), (2000, .proceed default true),
    (2000, .proceed default true)]

/-- Where a rest takes no time, commits are begun before the end although one has failed since the
end was asked for. -/
theorem restless_begins_after_failure :
    ∃ past w, Run restless past w ∧ past.InTime ∧
      ∃ x ∈ past, x.before.stopping = true ∧ x.refused ≠ [] ∧
        ∃ m ∈ past, m.looks ∧ m.begun ≠ [] ∧ x.now < m.now :=
  exists_run restless unheardStop (by decide)
    (fun past => past.InTime ∧
      ∃ x ∈ past, x.before.stopping = true ∧ x.refused ≠ [] ∧
        ∃ m ∈ past, m.looks ∧ m.begun ≠ [] ∧ x.now < m.now)
    (by decide +kernel)

/-- Three events wait, and the commit of each takes five seconds. -/
def slowBacklog : List (Nat × Deed) :=
  [(0, .start), (0, .send default), (0, .send default), (0, .send default),
    (0, .proceed ⟨5000, .stored⟩ true), (100, .stop), (5000, .proceed default true),
    (5000, .proceed ⟨5000, .stored⟩ true), (10000, .proceed default true),
    (10000, .proceed ⟨5000, .stored⟩ true)]

/-- A writer whose end has been asked for, and that may take a second for it, still begins commits
before the end, the last one ten seconds later. -/
theorem backlog_outlives_stop :
    ∃ past w, Run briefEnd past w ∧ past.InTime ∧ briefEnd.flushTimeout = .ofSecs 1 ∧
      (∃ s ∈ past, s.now = 100 ∧ s.before.stopping = false ∧ s.after.stopping = true) ∧
      ∃ m ∈ past, m.before.stopping = true ∧ m.looks ∧ m.begun ≠ [] ∧ m.now = 10000 :=
  exists_run briefEnd slowBacklog (by decide)
    (fun past => past.InTime ∧ briefEnd.flushTimeout = .ofSecs 1 ∧
      (∃ s ∈ past, s.now = 100 ∧ s.before.stopping = false ∧ s.after.stopping = true) ∧
      ∃ m ∈ past, m.before.stopping = true ∧ m.looks ∧ m.begun ≠ [] ∧ m.now = 10000)
    (by decide +kernel)

end Vigil.Writer
