import Vigil.Roster.Basic

/-!
Runs of a roster: fresh lists are merged into it, and verdicts are recorded on entries that stand in
it or have stood in it.

Main definitions: `Roster.accepts`, whether a service of a fresh list gets an entry; `Roster.Run`.
Main statements: `Roster.entry?_merge_eq_none`, who is left out by a merge; `Roster.cell_of_merge`,
whose live state an entry takes over.
-/

namespace Vigil

open Vigil.Clock

namespace Roster

/-! ### Entering services -/

/-- Whether a service of a fresh list may have an entry: it is to be checked, and it is the same
target as before or its check can be set up. -/
def accepts (r : Roster) (build : Service → Option Checker) (s : Service) : Bool :=
  s.active && ((r.entry? s.id).any (·.service.sameTarget s) || (build s).isSome)

/-- A roster in the making, without what is counted: how a service of a fresh list is entered into
it. -/
inductive Entered (r : Roster) (build : Service → Option Checker) (d : Roster) (s : Service) :
    Roster → Prop where
  | passed (reason : (d.entry? s.id).isSome ∨ r.accepts build s = false) : Entered r build d s d
  | kept {o : Monitored} (accepted : r.accepts build s = true) (absent : d.entry? s.id = none)
      (before : r.entry? s.id = some o) (same : o.service.sameTarget s = true) :
      Entered r build d s { d with entries := d.entries.insert s.id o }
  | updated {o : Monitored} {checker : Checker} (accepted : r.accepts build s = true)
      (absent : d.entry? s.id = none) (before : r.entry? s.id = some o)
      (other : o.service.sameTarget s = false) (built : build s = some checker) :
      Entered r build d s
        { d with
          entries := d.entries.insert s.id ⟨s, checker, d.made, o.cell⟩
          made := d.made + 1 }
  | added {checker : Checker} (accepted : r.accepts build s = true) (absent : d.entry? s.id = none)
      (unknown : r.entry? s.id = none) (built : build s = some checker) :
      Entered r build d s
        ⟨d.entries.insert s.id ⟨s, checker, d.made, d.lives.length⟩, d.lives ++ [.ofService s],
          d.made + 1⟩

/-- Every service is entered in one of the ways that are listed. -/
theorem entered_enter (r : Roster) (build : Service → Option Checker) (d : Draft) (s : Service) :
    Entered r build d.1 s (enter d s (receive build r.entries d.1.entries s)).1 := by
  unfold receive
  rw [Keyed.contains_eq]
  split
  · rename_i inactive
    have inactive : s.active = false := by simpa using inactive
    exact .passed (.inr (by simp [accepts, inactive]))
  · rename_i active
    have active : s.active = true := by simpa using active
    split
    · rename_i there
      exact .passed (.inl there)
    · rename_i absent
      have absent : Roster.entry? d.1 s.id = none := Option.not_isSome_iff_eq_none.mp absent
      split
      · rename_i unknown
        have unknown : r.entry? s.id = none := unknown
        split
        · rename_i unbuilt
          exact .passed (.inr (by simp [accepts, unknown, unbuilt]))
        · rename_i built
          exact .added (by simp [accepts, active, built]) absent unknown built
      · rename_i o known
        have known : r.entry? s.id = some o := known
        split
        · rename_i same
          exact .kept (by simp [accepts, active, known, same]) absent known same
        · rename_i other
          have other : o.service.sameTarget s = false := by simpa using other
          split
          · rename_i unbuilt
            exact .passed (.inr (by simp [accepts, known, other, unbuilt]))
          · rename_i built
            exact .updated (by simp [accepts, active, built]) absent known other built

/-- What each service of a fresh list keeps, as it is entered, the whole merge keeps. -/
theorem draft_induction (r : Roster) (build : Service → Option Checker) (fresh : List Service)
    {p : List Service → Roster → Prop} (start : p [] { r with entries := .empty })
    (step : ∀ done s rest d d', fresh = done ++ s :: rest → p done d → Entered r build d s d' →
      p (done ++ [s]) d') : p fresh (r.draft build fresh).1 := by
  suffices more : ∀ (rest done : List Service) (d : Draft), fresh = done ++ rest → p done d.1 →
      p (done ++ rest)
        (rest.foldl (fun d s => Roster.enter d s (receive build r.entries d.1.entries s)) d).1 from
    more fresh [] _ rfl start
  intro rest
  induction rest with
  | nil =>
      intro done d _ holds
      simpa using holds
  | cons s rest ih =>
      intro done d split holds
      rw [List.append_cons] at split ⊢
      refine ih (done ++ [s]) _ split ?_
      exact step done s rest d.1 _ (by simp [split]) holds (entered_enter r build d s)

/-- A roster in the making after some services of a fresh list. -/
structure Drafted (r : Roster) (build : Service → Option Checker) (done : List Service)
    (d : Roster) :
    Prop where
  lives : r.lives <+: d.lives
  absent : ∀ id, d.entry? id = none ↔ ∀ s ∈ done, s.id = id → r.accepts build s = false
  taken : ∀ id e o, d.entry? id = some e → r.entry? id = some o → e.cell = o.cell
  fresh : ∀ id e, d.entry? id = some e → r.entry? id = none →
    r.lives.length ≤ e.cell ∧ e.cell < d.lives.length

section Drafting

variable {r d : Roster} {build : Service → Option Checker} {done : List Service} {s : Service}

theorem Drafted.nothing (r : Roster) (build : Service → Option Checker) :
    Drafted r build [] { r with entries := .empty } where
  lives := List.prefix_rfl
  absent _ := by simp [Keyed.get?_empty, entry?]
  taken _ _ _ found := by simp [Keyed.get?_empty, entry?] at found
  fresh _ _ found := by simp [Keyed.get?_empty, entry?] at found

/-- A service that has an entry already, or may have none, is passed over. -/
theorem Drafted.pass (drafted : Drafted r build done d)
    (reason : (d.entry? s.id).isSome ∨ r.accepts build s = false) :
    Drafted r build (done ++ [s]) d := by
  refine ⟨drafted.lives, fun id => ?_, drafted.taken, drafted.fresh⟩
  rw [drafted.absent id, List.forall_mem_append]
  refine ⟨fun none => ⟨none, fun s' mem here => ?_⟩, And.left⟩
  obtain rfl := List.mem_singleton.mp mem
  rcases reason with there | refused
  · rw [here, (drafted.absent id).mpr none] at there
    cases there
  · exact refused

/-- A service that may have an entry and has none is given one. -/
theorem Drafted.insert (drafted : Drafted r build done d) (accepted : r.accepts build s = true)
    {e : Monitored} {lives : List Live} (made : Nat) (longer : d.lives <+: lives)
    (taken : ∀ o, r.entry? s.id = some o → e.cell = o.cell)
    (fresh : r.entry? s.id = none → r.lives.length ≤ e.cell ∧ e.cell < lives.length) :
    Drafted r build (done ++ [s]) ⟨d.entries.insert s.id e, lives, made⟩ := by
  have found (id : Int) : Roster.entry? ⟨d.entries.insert s.id e, lives, made⟩ id =
      if s.id = id then some e else d.entry? id := Keyed.get?_insert _ _ _ _
  refine ⟨drafted.lives.trans longer, fun id => ?_, fun id e' o here before => ?_,
    fun id e' here unknown => ?_⟩
  · rw [found, List.forall_mem_append, ← drafted.absent id]
    by_cases h : s.id = id
    · simp [h, accepted]
    · simp [h]
  all_goals
    rw [found] at here
    split at here
    rename_i same
  · subst same
    cases here
    exact taken o before
  · exact drafted.taken id e' o here before
  · subst same
    cases here
    exact fresh unknown
  · obtain ⟨least, bound⟩ := drafted.fresh id e' here unknown
    exact ⟨least, Nat.lt_of_lt_of_le bound longer.length_le⟩

/-- What a roster in the making keeps, whatever becomes of a service. -/
theorem Drafted.enter {d' : Roster} (drafted : Drafted r build done d)
    (entered : Entered r build d s d') : Drafted r build (done ++ [s]) d' := by
  cases entered with
  | passed reason => exact drafted.pass reason
  | kept accepted absent before | updated accepted absent before =>
      refine drafted.insert accepted _ List.prefix_rfl (fun o here => ?_) fun none => ?_
      · cases before.symm.trans here
        rfl
      · cases before.symm.trans none
  | added accepted absent unknown =>
      refine drafted.insert accepted _ (List.prefix_append _ _) (fun o here => ?_) fun _ => ?_
      · cases unknown.symm.trans here
      · simpa using drafted.lives.length_le

theorem drafted_draft (r : Roster) (build : Service → Option Checker) (fresh : List Service) :
    Drafted r build fresh (r.draft build fresh).1 := by
  refine draft_induction r build fresh (.nothing r build) ?_
  intro done s rest d d' _ drafted entered
  exact drafted.enter entered

end Drafting

/-! ### Merges -/

section Merging

variable {r : Roster} {build : Service → Option Checker} {fresh : List Service} {reachable : Bool}

theorem merge_of_ne_nil (ne : fresh ≠ []) :
    (r.merge build fresh reachable).1 = (r.draft build fresh).1 := by
  cases fresh with
  | nil => exact absurd rfl ne
  | cons => rfl

/-- An empty list from a datastore that cannot be reached means nothing. -/
@[simp] theorem merge_unreachable : (r.merge build [] false).1 = r := rfl

/-- An empty list from a datastore that can be reached clears the roster. -/
@[simp] theorem merge_cleared : (r.merge build [] true).1 = { r with entries := .empty } := rfl

/-- A merge changes no live state. -/
theorem lives_merge : r.lives <+: (r.merge build fresh reachable).1.lives := by
  by_cases ne : fresh = []
  · subst ne
    cases reachable <;> simp
  · rw [merge_of_ne_nil ne]
    exact (drafted_draft r build fresh).lives

/-- The services left out by a merge are those of which no one named may have an entry. -/
theorem entry?_merge_eq_none (ne : fresh ≠ []) (id : Int) :
    Roster.entry? (r.merge build fresh reachable).1 id = none ↔
      ∀ s ∈ fresh, s.id = id → r.accepts build s = false := by
  rw [merge_of_ne_nil ne]
  exact (drafted_draft r build fresh).absent id

/-- A service that was in the roster keeps its live state, and another one has a new one. -/
theorem cell_of_merge (ne : fresh ≠ []) {id : Int} {e : Monitored}
    (found : Roster.entry? (r.merge build fresh reachable).1 id = some e) :
    (∀ o, r.entry? id = some o → e.cell = o.cell) ∧
      (r.entry? id = none → r.lives.length ≤ e.cell ∧
        e.cell < (r.merge build fresh reachable).1.lives.length) := by
  rw [merge_of_ne_nil ne] at found ⊢
  have drafted := drafted_draft r build fresh
  exact ⟨fun o => drafted.taken id e o found, drafted.fresh id e found⟩

/-- Entries name live states that are there. -/
def Sound (r : Roster) : Prop := ∀ id e, r.entry? id = some e → e.cell < r.lives.length

/-- A merge adds live states and removes none, so that no entry loses its own. -/
theorem Sound.merge (sound : r.Sound) : (r.merge build fresh reachable).1.Sound := by
  intro id e found
  by_cases ne : fresh = []
  · subst ne
    cases reachable with
    | false => exact sound id e found
    | true => simp [Keyed.get?_empty, entry?] at found
  · obtain ⟨taken, new⟩ := cell_of_merge ne found
    cases before : r.entry? id with
    | none => exact (new before).2
    | some o =>
        rw [taken o before]
        exact Nat.lt_of_lt_of_le (sound id o before) lives_merge.length_le

end Merging

theorem mem_list {r : Roster} {e : Monitored} : e ∈ r.list ↔ ∃ id, r.entry? id = some e := by
  simp only [list, entry?, Keyed.mem_values, Keyed.get?_eq_some_iff]

/-! ### Live states -/

/-- A live state is where it was if others are put behind. -/
theorem live_of_longer {r r' : Roster} {e : Monitored} (more : r.lives <+: r'.lives)
    (inside : e.cell < r.lives.length) : r'.live e = r.live e := by
  obtain ⟨rest, more⟩ := more
  rw [live, live, ← more, List.getElem?_append_left inside]

/-- A verdict changes the live state that it is recorded on, and no other. -/
theorem live_record (r : Roster) {e o : Monitored} (inside : e.cell < r.lives.length) (v : Verdict)
    (time : Instant) : (r.record o v time).1.live e =
      if o.cell = e.cell then (r.live e).after v else r.live e := by
  simp only [record, setLive, live, List.getElem?_set]
  by_cases h : o.cell = e.cell
  · simp [h, inside]
  · simp [h]

/-! ### Runs -/

inductive Deed where
  | merge (build : Service → Option Checker) (fresh : List Service) (reachable : Bool)
  | record (entry : Monitored) (verdict : Verdict) (time : Instant)

def act (r : Roster) : Deed → Roster × List Event
  | .merge build fresh reachable => ((r.merge build fresh reachable).1, [])
  | .record entry verdict time => r.record entry verdict time

/-- A roster and all entries that have ever stood in it: any of them may still be held by a
worker. -/
structure World where
  roster : Roster
  handles : List Monitored

namespace World

def empty : World := ⟨.empty, []⟩

/-- A verdict is recorded on an entry that somebody has got from the roster. -/
def allows (w : World) : Deed → Bool
  | .merge .. => true
  | .record entry _ _ => w.handles.contains entry

def after (w : World) (d : Deed) : World :=
  let next := (w.roster.act d).1
  ⟨next, w.handles ++ next.list⟩

structure Sound (w : World) : Prop where
  roster : w.roster.Sound
  handles : ∀ e ∈ w.handles, e.cell < w.roster.lives.length

end World

/-- A deed that has been done: the roster before it, and the events that it has caused. -/
structure Moment where
  before : Roster
  deed : Deed
  events : List Event

/-- A run: all that is done from one moment on, the first deed first. -/
inductive Run : World → List Moment → World → Prop where
  | rest (w : World) : Run w [] w
  | step {w w' : World} {d : Deed} {past : List Moment} (allowed : w.allows d = true)
      (run : Run (w.after d) past w') : Run w (⟨w.roster, d, (w.roster.act d).2⟩ :: past) w'

/-- No deed takes live states away. -/
theorem length_lives_act (r : Roster) (d : Deed) : r.lives.length ≤ (r.act d).1.lives.length := by
  cases d with
  | merge build fresh reachable => exact lives_merge.length_le
  | record entry v time => simp [act, record, setLive]

/-- Entries that have left the roster keep their live states too: somebody may still report on them.
-/
theorem World.Sound.after {w : World} (sound : w.Sound) (d : Deed) : (w.after d).Sound := by
  have roster : (w.roster.act d).1.Sound := by
    cases d with
    | merge build fresh reachable => exact sound.roster.merge
    | record entry v time =>
        intro id e found
        simpa [act, record, setLive] using sound.roster id e found
  refine ⟨roster, fun e mem => ?_⟩
  rcases List.mem_append.mp mem with mem | mem
  · exact Nat.lt_of_lt_of_le (sound.handles e mem) (length_lives_act w.roster d)
  · obtain ⟨id, found⟩ := mem_list.mp mem
    exact roster id e found

theorem Run.sound {w w' : World} {past : List Moment} (run : Run w past w') (sound : w.Sound) :
    w'.Sound := by
  induction run with
  | rest => exact sound
  | step _ _ ih => exact ih (sound.after _)

theorem World.empty_sound : World.empty.Sound where
  roster _ _ found := by cases found
  handles _ mem := by cases mem

def play? (w : World) : List Deed → Option (List Moment × World)
  | [] => some ([], w)
  | d :: rest =>
    if w.allows d then
      (play? (w.after d) rest).map fun (past, w') => (⟨w.roster, d, (w.roster.act d).2⟩ :: past, w')
    else none

/-- A schedule that can be played is a run. -/
theorem run_of_play? {w w' : World} (deeds : List Deed) {past : List Moment}
    (played : play? w deeds = some (past, w')) : Run w past w' := by
  induction deeds generalizing w past with
  | nil =>
      cases played
      exact .rest _
  | cons d rest ih =>
      simp only [play?] at played
      split at played
      · rename_i allowed
        obtain ⟨⟨tail, _⟩, more, same⟩ := Option.map_eq_some_iff.mp played
        cases same
        exact .step allowed (ih more)
      · cases played

/-- Where two schedules, one after the other, come to something of a kind, there are runs to it. -/
theorem exists_runs (before after : List Deed) (p : World → List Moment → World → Prop)
    [∀ w past w', Decidable (p w past w')]
    (happens : (play? .empty before).any (fun r =>
      (play? r.2 after).any fun r' => p r.2 r'.1 r'.2) = true) :
    ∃ earlier w past w', Run .empty earlier w ∧ Run w past w' ∧ p w past w' := by
  obtain ⟨⟨earlier, w⟩, played, more⟩ := (Option.any_eq_true _ _).mp happens
  obtain ⟨⟨past, w'⟩, played', check⟩ := (Option.any_eq_true _ _).mp more
  exact ⟨earlier, w, past, w', run_of_play? before played, run_of_play? after played',
    of_decide_eq_true check⟩

end Roster

end Vigil
