import Mathlib.Data.List.Basic
import Vigil.Daemon.PidLock
import Vigil.Proofs.Files.Names

/-!
Processes that take and drop the lock of one path, in steps that may come in any order.

To open the file and to lock it are two steps, and so are to remove its name and to let go of the
lock. A process that has opened the file may therefore come to lock it when its name is gone, while
the next one makes a new file under the name. Main statement: `PidLock.guarded_iff`, the lock guards
the path as long as each process that locks a file locks the one of that name.
-/

namespace Vigil.PidLock

/-! ### Steps -/

inductive Standing where
  | outside
  /-- It has opened a file that it has not tried to lock yet. -/
  | atDoor (file : Nat)
  | holding (lock : PidLock)
  /-- It has removed the name, and the file is still locked. -/
  | leaving (lock : PidLock)
deriving DecidableEq

/-- The lock that a process has, also while it drops it. -/
def Standing.lock? : Standing → Option PidLock
  | .outside | .atDoor _ => none
  | .holding lock | .leaving lock => some lock

/-- Processes by their numbers, and the files that they share. -/
structure Crowd where
  files : Files
  standing : Nat → Standing

namespace Crowd

def ofFiles (fs : Files) : Crowd := ⟨fs, fun _ => .outside⟩

/-- One process goes on, with what it does to the files. -/
def goes (c : Crowd) (p : Nat) (s : Standing) (fs : Files) : Crowd :=
  ⟨fs, Function.update c.standing p s⟩

@[simp] theorem files_goes (c : Crowd) (p : Nat) (s : Standing) (fs : Files) :
    (c.goes p s fs).files = fs := rfl

@[simp] theorem standing_goes (c : Crowd) (p q : Nat) (s : Standing) (fs : Files) :
    (c.goes p s fs).standing q = if q = p then s else c.standing q := by
  simp [goes, Function.update_apply]

end Crowd

inductive Deed where
  | openFile (p : Nat)
  | tryLock (p : Nat)
  | writePid (p pid : Nat)
  | unlink (p : Nat)
  | unlock (p : Nat)
deriving DecidableEq

/-- What becomes of the processes, if the one that does something stands where it can. -/
def act? (path : String) (c : Crowd) : Deed → Option Crowd
  | .openFile p =>
    match c.standing p with
    | .outside =>
      match openFile c.files path with
      | .error _ => some c
      | .ok (file, fs) => some (c.goes p (.atDoor file) fs)
    | _ => none
  | .tryLock p =>
    match c.standing p with
    | .atDoor file =>
      match tryLock c.files path file with
      | .error _ => some (c.goes p .outside c.files)
      | .ok (lock, fs) => some (c.goes p (.holding lock) fs)
    | _ => none
  | .writePid p pid =>
    match c.standing p with
    | .holding lock => some { c with files := lock.writePid c.files pid }
    | _ => none
  | .unlink p =>
    match c.standing p with
    | .holding lock => some (c.goes p (.leaving lock) (lock.unlink c.files))
    | _ => none
  | .unlock p =>
    match c.standing p with
    | .leaving lock => some (c.goes p .outside (lock.unlock c.files))
    | _ => none

/-- The steps one by one. -/
inductive Step (path : String) (c : Crowd) : Deed → Crowd → Prop where
  | unopened {p : Nat} : Step path c (.openFile p) c
  | opened {p file : Nat} {fs : Files} (here : c.standing p = .outside)
      (done : c.files.openOrCreate path = .ok (file, fs)) :
      Step path c (.openFile p) (c.goes p (.atDoor file) fs)
  | refused {p file : Nat} (here : c.standing p = .atDoor file) (taken : file ∈ c.files.locked) :
      Step path c (.tryLock p) (c.goes p .outside c.files)
  | locked {p file : Nat} (here : c.standing p = .atDoor file) (free : file ∉ c.files.locked) :
      Step path c (.tryLock p) (c.goes p (.holding ⟨path, file⟩) (c.files.lock file))
  | wrote {p pid : Nat} {lock : PidLock} (here : c.standing p = .holding lock) :
      Step path c (.writePid p pid) { c with files := lock.writePid c.files pid }
  | unlinked {p : Nat} {lock : PidLock} (here : c.standing p = .holding lock) :
      Step path c (.unlink p) (c.goes p (.leaving lock) (lock.unlink c.files))
  | unlocked {p : Nat} {lock : PidLock} (here : c.standing p = .leaving lock) :
      Step path c (.unlock p) (c.goes p .outside (lock.unlock c.files))

/-- There are no other steps. -/
theorem step_of_act? {path : String} {c c' : Crowd} {d : Deed} (done : act? path c d = some c') :
    Step path c d c' := by
  cases d with
  | openFile p =>
      simp only [act?] at done
      split at done
      · rename_i here
        split at done
        · cases done
          exact .unopened
        · rename_i file fs opened
          cases done
          refine .opened here ?_
          unfold openFile at opened
          cases made : c.files.openOrCreate path with
          | error f =>
              rw [made] at opened
              cases opened
          | ok r =>
              rw [made] at opened
              cases opened
              rfl
      · cases done
  | tryLock p =>
      simp only [act?, tryLock] at done
      split at done
      · rename_i file here
        by_cases taken : c.files.isLocked file = true
        · rw [if_pos taken] at done
          cases done
          exact .refused here (List.contains_iff_mem.mp taken)
        · rw [if_neg taken] at done
          cases done
          exact .locked here fun mem => taken (List.contains_iff_mem.mpr mem)
      · cases done
  | writePid p pid =>
      simp only [act?] at done
      split at done
      · rename_i lock here
        cases done
        exact .wrote here
      · cases done
  | unlink p =>
      simp only [act?] at done
      split at done
      · rename_i lock here
        cases done
        exact .unlinked here
      · cases done
  | unlock p =>
      simp only [act?] at done
      split at done
      · rename_i lock here
        cases done
        exact .unlocked here
      · cases done

/-! ### Runs -/

structure Moment where
  before : Crowd
  deed : Deed
  after : Crowd

/-- A run: all that is done from one moment on, the first deed first. -/
inductive Run (path : String) : Crowd → List Moment → Crowd → Prop where
  | rest (c : Crowd) : Run path c [] c
  | step {c next c' : Crowd} {d : Deed} {past : List Moment} (done : act? path c d = some next)
      (run : Run path next past c') : Run path c (⟨c, d, next⟩ :: past) c'

/-- One process at most holds the lock, and the path leads to the file that it has locked. -/
structure Crowd.Guarded (path : String) (c : Crowd) : Prop where
  alone : ∀ p q lock lock', c.standing p = .holding lock → c.standing q = .holding lock' → p = q
  named : ∀ p lock, c.standing p = .holding lock → c.files.find path = .ok (.file lock.file)

def Moment.locks? (m : Moment) : Option Nat :=
  match m.deed with
  | .tryLock p =>
    match m.before.standing p with
    | .atDoor file => if m.before.files.isLocked file then none else some file
    | _ => none
  | _ => none

/-- A process that locks a file finds it under its name. -/
def Moment.LocksNamed (path : String) (m : Moment) : Prop :=
  ∀ file ∈ m.locks?, m.before.files.find path = .ok (.file file)

instance (path : String) (m : Moment) : Decidable (m.LocksNamed path) :=
  inferInstanceAs (Decidable (∀ file ∈ m.locks?, m.before.files.find path = .ok (.file file)))

/-- A process locks a file that it has opened, if nobody else has locked it. -/
theorem Moment.locks?_eq_some {m : Moment} {file : Nat} :
    m.locks? = some file ↔ ∃ p, m.deed = .tryLock p ∧ m.before.standing p = .atDoor file ∧
      file ∉ m.before.files.locked := by
  have isLocked (file : Nat) : m.before.files.isLocked file = true ↔ file ∈ m.before.files.locked :=
    List.contains_iff_mem
  unfold locks?
  constructor
  · intro locks
    split at locks
    · rename_i p deed
      split at locks
      · rename_i file' here
        split at locks
        · cases locks
        · rename_i free
          cases locks
          exact ⟨p, deed, here, fun taken => free ((isLocked file).mpr taken)⟩
      · cases locks
    · cases locks
  · rintro ⟨p, deed, here, free⟩
    have unlocked : ¬ m.before.files.isLocked file = true :=
      fun taken => free ((isLocked file).mp taken)
    simp only [deed, here, if_neg unlocked]

/-- The name is removed while a process has opened a file and not tried to lock it yet. -/
def Moment.Disturbs (m : Moment) : Prop :=
  ∃ p q file, m.deed = .unlink p ∧ m.before.standing q = .atDoor file

/-! ### What a step keeps -/

/-- Files that processes have locked are locked, each for one process. -/
structure Crowd.Sound (c : Crowd) : Prop where
  locked : ∀ p lock, (c.standing p).lock? = some lock → lock.file ∈ c.files.locked
  apart : ∀ p q lock lock', (c.standing p).lock? = some lock → (c.standing q).lock? = some lock' →
    lock.file = lock'.file → p = q

/-- A process that is waiting to lock a file finds it under its name. -/
def Crowd.Waits (path : String) (c : Crowd) : Prop :=
  ∀ p file, c.standing p = .atDoor file → c.files.find path = .ok (.file file)

section Steps

variable {path : String} {c c' : Crowd} {d : Deed}

/-- A process that goes on without a new lock may be left out of account. -/
theorem Crowd.Sound.goes (sound : c.Sound) {p : Nat} {s : Standing} {fs : Files}
    (old : s.lock? = none ∨ s.lock? = (c.standing p).lock?) (same : fs.locked = c.files.locked) :
    (c.goes p s fs).Sound := by
  have before (q : Nat) (lock : PidLock) (has : ((c.goes p s fs).standing q).lock? = some lock) :
      (c.standing q).lock? = some lock := by
    rw [standing_goes] at has
    split at has
    · rename_i here
      subst here
      rcases old with none | old
      · rw [none] at has
        cases has
      · exact old.symm.trans has
    · exact has
  constructor
  · intro q lock has
    rw [files_goes, same]
    exact sound.locked q lock (before q lock has)
  · intro q q' lock lock' has has'
    exact sound.apart q q' lock lock' (before q lock has) (before q' lock' has')

/-- No step gives a lock to two processes: a file is locked by one that found it unlocked, and
released by the one that has it. -/
theorem Crowd.Sound.step (sound : c.Sound) (step : Step path c d c') : c'.Sound := by
  cases step with
  | unopened => exact sound
  | opened here done => exact sound.goes (.inl rfl) (Files.locked_of_openOrCreate done)
  | refused here taken => exact sound.goes (.inl rfl) rfl
  | wrote here => exact ⟨sound.locked, sound.apart⟩
  | @unlinked p lock here =>
      refine sound.goes (.inr (by rw [here]; rfl)) ?_
      unfold unlink
      cases removed : c.files.remove lock.path with
      | error f => rfl
      | ok fs => exact Files.locked_of_remove removed
  | @locked p file here free =>
      have other (q : Nat) (lock : PidLock) (has : (c.standing q).lock? = some lock) :
          lock.file ≠ file := by
        intro same
        exact free (same ▸ sound.locked q lock has)
      constructor
      · intro q lock has
        rw [Crowd.standing_goes] at has
        split at has
        · cases has
          exact List.mem_cons_self
        · exact List.mem_cons_of_mem _ (sound.locked q lock has)
      · intro q q' lock lock' has has' same
        rw [Crowd.standing_goes] at has has'
        split at has <;> split at has'
        · rename_i first second
          rw [first, second]
        · cases has
          exact absurd same.symm (other q' lock' has')
        · cases has'
          exact absurd same (other q lock has)
        · exact sound.apart q q' lock lock' has has' same
  | @unlocked p lock here =>
      have mine : (c.standing p).lock? = some lock := by rw [here]; rfl
      have others (q : Nat) (lock' : PidLock)
          (has : (if q = p then Standing.outside else c.standing q).lock? = some lock') :
          q ≠ p ∧ (c.standing q).lock? = some lock' := by
        split at has
        · cases has
        · rename_i ne
          exact ⟨ne, has⟩
      constructor
      · intro q lock' has
        rw [Crowd.standing_goes] at has
        obtain ⟨ne, has⟩ := others q lock' has
        have differ : lock'.file ≠ lock.file :=
          fun same => ne (sound.apart q p lock' lock has mine same)
        exact (List.mem_erase_of_ne differ).mpr (sound.locked q lock' has)
      · intro q q' lock₁ lock₂ has has'
        rw [Crowd.standing_goes] at has has'
        exact sound.apart q q' lock₁ lock₂ (others q lock₁ has).2 (others q' lock₂ has').2

/-- Who holds the lock after another standing was taken without one has held it before. -/
theorem Crowd.holding_of_goes {p q : Nat} {s : Standing} {fs : Files} {lock : PidLock}
    (without : ∀ l, s ≠ .holding l) (holds : (c.goes p s fs).standing q = .holding lock) :
    q ≠ p ∧ c.standing q = .holding lock := by
  rw [standing_goes] at holds
  split at holds
  · exact absurd holds (without lock)
  · rename_i ne
    exact ⟨ne, holds⟩

/-- The guard stays if nobody comes to hold the lock and those who hold it keep the name. -/
theorem Crowd.Guarded.goes (guarded : c.Guarded path) {p : Nat} {s : Standing} {fs : Files}
    (without : ∀ l, s ≠ .holding l)
    (keeps : ∀ q lock, q ≠ p → c.standing q = .holding lock →
      c.files.find path = .ok (.file lock.file) → fs.find path = .ok (.file lock.file)) :
    (c.goes p s fs).Guarded path := by
  constructor
  · intro q q' lock lock' holds holds'
    have before := (holding_of_goes without holds).2
    have before' := (holding_of_goes without holds').2
    exact guarded.alone q q' lock lock' before before'
  · intro q lock holds
    obtain ⟨ne, before⟩ := holding_of_goes without holds
    exact keeps q lock ne before (guarded.named q lock before)

/-- A guarded path stays guarded if a process that locks a file locks the one of that name. -/
theorem Crowd.Guarded.step (guarded : c.Guarded path) (sound : c.Sound) (step : Step path c d c')
    (locks : Moment.LocksNamed path ⟨c, d, c'⟩) : c'.Guarded path := by
  cases step with
  | unopened => exact guarded
  | wrote here => exact ⟨guarded.alone, guarded.named⟩
  | opened here done =>
      refine guarded.goes (fun _ h => nomatch h) fun q lock _ _ named => ?_
      rw [Files.openOrCreate_of_find named done]
      exact named
  | refused here taken => exact guarded.goes (fun _ h => nomatch h) fun _ _ _ _ named => named
  | unlocked here => exact guarded.goes (fun _ h => nomatch h) fun _ _ _ _ named => named
  | @unlinked p lock here =>
      refine guarded.goes (fun _ h => nomatch h) fun q lock' ne holds _ => ?_
      exact absurd (guarded.alone q p lock' lock holds here) ne
  | @locked p file here free =>
      have named : c.files.find path = .ok (.file file) :=
        locks file (Moment.locks?_eq_some.mpr ⟨p, rfl, here, free⟩)
      -- Whoever held a lock would hold it on the file of that name, which is free.
      have nobody (q : Nat) (lock : PidLock) : c.standing q ≠ .holding lock := by
        intro holds
        have same : FileNode.file lock.file = .file file :=
          Except.ok.inj ((guarded.named q lock holds).symm.trans named)
        cases same
        exact free (sound.locked q lock (by rw [holds]; rfl))
      have only (q : Nat) (lock : PidLock)
          (holds : (c.goes p (.holding ⟨path, file⟩) (c.files.lock file)).standing q =
            .holding lock) :
          q = p ∧ lock.file = file := by
        rw [standing_goes] at holds
        split at holds
        · rename_i same
          cases holds
          exact ⟨same, rfl⟩
        · exact absurd holds (nobody q lock)
      constructor
      · intro q q' lock lock' holds holds'
        exact (only q lock holds).1.trans (only q' lock' holds').1.symm
      · intro q lock holds
        rw [(only q lock holds).2]
        exact named

/-- A guarded path shows that a process that has locked a file has locked the one of that name. -/
theorem Crowd.Guarded.locksNamed (guarded : c'.Guarded path) (step : Step path c d c') :
    Moment.LocksNamed path ⟨c, d, c'⟩ := by
  intro file locks
  obtain ⟨p, deed, here, free⟩ := Moment.locks?_eq_some.mp locks
  cases deed
  cases step with
  | refused here' taken =>
      cases here.symm.trans here'
      exact absurd taken free
  | locked here' =>
      cases here.symm.trans here'
      exact guarded.named p ⟨path, file⟩ (by simp)

/-- Those who wait find their file under its name as long as no name is removed before them. -/
theorem Crowd.Waits.step (waits : c.Waits path) (step : Step path c d c')
    (calm : ¬ Moment.Disturbs ⟨c, d, c'⟩) : c'.Waits path := by
  have stays {p : Nat} {s : Standing} {fs : Files} (without : ∀ file, s ≠ .atDoor file)
      (keeps : fs.find path = c.files.find path) : (c.goes p s fs).Waits path := by
    intro q file here
    rw [standing_goes] at here
    split at here
    · exact absurd here (without file)
    · exact keeps.trans (waits q file here)
  cases step with
  | unopened => exact waits
  | wrote here => exact waits
  | refused here taken => exact stays (fun _ h => nomatch h) rfl
  | locked here free => exact stays (fun _ h => nomatch h) rfl
  | unlocked here => exact stays (fun _ h => nomatch h) rfl
  | @unlinked p lock here =>
      intro q file waiting
      rw [standing_goes] at waiting
      split at waiting
      · cases waiting
      · exact absurd ⟨p, q, file, rfl, waiting⟩ calm
  | @opened p file fs here done =>
      intro q other waiting
      rw [standing_goes] at waiting
      split at waiting
      · cases waiting
        exact Files.find_of_openOrCreate done
      · have named := waits q other waiting
        rw [files_goes, Files.openOrCreate_of_find named done]
        exact named

end Steps

/-! ### Whole runs -/

theorem Crowd.sound_ofFiles (fs : Files) : (ofFiles fs).Sound := by
  constructor
  · intro p lock has
    cases has
  · intro p q lock lock' has
    cases has

theorem Crowd.guarded_ofFiles (path : String) (fs : Files) : (ofFiles fs).Guarded path := by
  constructor
  · intro p q lock lock' holds
    cases holds
  · intro p lock holds
    cases holds

section Runs

variable {path : String} {c c' : Crowd} {past : List Moment}

/-- The lock guards the path throughout a run if and only if no process ever locks a file that has
lost its name. -/
theorem Run.guarded_iff_locksNamed (run : Run path c past c') (sound : c.Sound)
    (guarded : c.Guarded path) :
    (∀ m ∈ past, m.after.Guarded path) ↔ ∀ m ∈ past, m.LocksNamed path := by
  induction run with
  | rest => simp
  | @step c next c' d past done _ ih =>
      have step := step_of_act? done
      rw [List.forall_mem_cons, List.forall_mem_cons]
      constructor
      · rintro ⟨first, more⟩
        exact ⟨first.locksNamed step, (ih (sound.step step) first).mp more⟩
      · rintro ⟨first, more⟩
        have after : next.Guarded path := guarded.step sound step first
        exact ⟨after, (ih (sound.step step) after).mpr more⟩

/-- Where nobody removes the name while another one waits at the door, every file that is locked has
its name. -/
theorem Run.locksNamed (run : Run path c past c') (waits : c.Waits path)
    (calm : ∀ m ∈ past, ¬ m.Disturbs) : ∀ m ∈ past, m.LocksNamed path := by
  induction run with
  | rest => simp
  | @step c next c' d past done _ ih =>
      rw [List.forall_mem_cons] at calm ⊢
      constructor
      · intro file locks
        obtain ⟨p, -, here, -⟩ := Moment.locks?_eq_some.mp locks
        exact waits p file here
      · exact ih (waits.step (step_of_act? done) calm.1) calm.2

end Runs

/-- At no time is there anyone who holds the lock beside another one or on a file without its name,
if and only if each process that locks a file finds it under its name. That is so if no process
removes the name while another one has opened the file and not tried to lock it yet. -/
theorem guarded_iff {path : String} {fs : Files} {past : List Moment} {c : Crowd}
    (run : Run path (.ofFiles fs) past c) :
    ((∀ m ∈ past, m.after.Guarded path) ↔ ∀ m ∈ past, m.LocksNamed path) ∧
      ((∀ m ∈ past, ¬ m.Disturbs) → ∀ m ∈ past, m.after.Guarded path) := by
  have iff := run.guarded_iff_locksNamed (Crowd.sound_ofFiles fs) (Crowd.guarded_ofFiles path fs)
  refine ⟨iff, fun calm => iff.mpr (run.locksNamed ?_ calm)⟩
  intro p file here
  cases here

/-! ### Three processes -/

def play? (path : String) (c : Crowd) : List Deed → Option (List Moment × Crowd)
  | [] => some ([], c)
  | d :: rest => do
    let next ← act? path c d
    let (past, c') ← play? path next rest
    return (⟨c, d, next⟩ :: past, c')

/-- A schedule that can be played is a run. -/
theorem run_of_play? {path : String} {c c' : Crowd} (deeds : List Deed) {past : List Moment}
    (played : play? path c deeds = some (past, c')) : Run path c past c' := by
  induction deeds generalizing c past with
  | nil =>
      cases played
      exact .rest _
  | cons d rest ih =>
      simp only [play?, Option.bind_eq_bind, Option.bind_eq_some_iff, Option.pure_def,
        Option.some.injEq, Prod.mk.injEq] at played
      obtain ⟨next, done, ⟨tail, _⟩, more, rfl, rfl⟩ := played
      exact .step done (ih more)

/-- Where a schedule comes to something of a kind, there is a run to it. -/
theorem exists_run (path : String) (c : Crowd) (deeds : List Deed)
    (q : List Moment → Crowd → Prop) [∀ past c', Decidable (q past c')]
    (happens : (play? path c deeds).any (fun r => q r.1 r.2) = true) :
    ∃ past c', Run path c past c' ∧ q past c' := by
  obtain ⟨⟨past, c'⟩, played, check⟩ := (Option.any_eq_true _ _).mp happens
  exact ⟨past, c', run_of_play? deeds played, of_decide_eq_true check⟩

def directory : Files := .ofHome "run"

def takes (p : Nat) : List Deed := [.openFile p, .tryLock p, .writePid p p]

def drops (p : Nat) : List Deed := [.unlink p, .unlock p]

/-- The second process is refused while the first one holds the lock, and gets it afterwards. -/
def inTurn : List Deed := takes 1 ++ [.openFile 2, .tryLock 2] ++ drops 1 ++ takes 2

theorem inTurn_guarded :
    ∃ past c, Run "pid" (.ofFiles directory) past c ∧
      (∃ m ∈ past, m.deed = .tryLock 2 ∧ m.after.standing 2 = .outside) ∧
      (∃ lock, c.standing 2 = .holding lock) ∧ ∀ m ∈ past, m.after.Guarded "pid" := by
  obtain ⟨past, c, run, refused, holds, named⟩ := exists_run "pid" (.ofFiles directory) inTurn
    (fun past c => (∃ m ∈ past, m.deed = .tryLock 2 ∧ m.after.standing 2 = .outside) ∧
      c.standing 2 = .holding ⟨"pid", 1⟩ ∧ ∀ m ∈ past, m.LocksNamed "pid")
    (by decide +kernel)
  exact ⟨past, c, run, refused, ⟨_, holds⟩, (guarded_iff run).1.mpr named⟩

/-- The second process opens the file before the first one removes its name, and locks it after the
first one has let go of it. The third one makes a new file. -/
def slipsIn : List Deed :=
  takes 1 ++ [.openFile 2] ++ drops 1 ++ [.tryLock 2, .writePid 2 2] ++ takes 3

/-- In the end two processes hold the lock, one of them on a file without a name. -/
theorem two_hold_lock :
    ∃ past c lock lock', Run "pid" (.ofFiles directory) past c ∧ c.standing 2 = .holding lock ∧
      c.standing 3 = .holding lock' ∧ lock.path = lock'.path ∧ lock.file ≠ lock'.file ∧
      c.files.find "pid" = .ok (.file lock'.file) := by
  obtain ⟨past, c, run, first, second, named⟩ := exists_run "pid" (.ofFiles directory) slipsIn
    (fun _ c => c.standing 2 = .holding ⟨"pid", 0⟩ ∧ c.standing 3 = .holding ⟨"pid", 1⟩ ∧
      c.files.find "pid" = .ok (.file 1))
    (by decide +kernel)
  exact ⟨past, c, _, _, run, first, second, rfl, by decide, named⟩

end Vigil.PidLock
