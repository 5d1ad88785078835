import Mathlib.Data.List.Basic
import Vigil.Daemon.LogFile
import Vigil.Proofs.Files.Contents

/-!
Log files that are shared, and moved away while they are open.

A log file is one open file that can be exchanged; all its clones, and the writers that were handed
out, are handles of it. Names of files come and go meanwhile. Main definitions: `LogFile.named?`,
the file that the path of a log file named when it was last opened or opened again; `LogFile.added`,
what a history adds to a file. Main statement: `LogFile.keeps_lines`.
-/

namespace Vigil.LogFile

/-! ### Steps -/

/-- Log files with those who share them, and the files. -/
structure Desk where
  files : Files
  /-- The log files that have been opened, by their numbers. -/
  logs : List LogFile
  /-- For each handle, which is a clone or a writer, the number of its log file. -/
  handles : List Nat

namespace Desk

def ofFiles (fs : Files) : Desk := ⟨fs, [], []⟩

/-- One more log file, with a handle of its own. -/
def enter (d : Desk) (log : LogFile) (fs : Files) : Desk :=
  ⟨fs, d.logs ++ [log], d.handles ++ [d.logs.length]⟩

/-- Another open file in place of the one that a log file had. -/
def exchange (d : Desk) (n : Nat) (log : LogFile) (fs : Files) : Desk :=
  { d with files := fs, logs := d.logs.set n log }

/-- The file to which the handles of a log file write. -/
def current? (d : Desk) (n : Nat) : Option Nat := d.logs[n]?.map LogFile.file

/-- A new log file leaves those before it where they write. -/
theorem current?_enter (d : Desk) (log : LogFile) (fs : Files) (n : Nat) :
    (d.enter log fs).current? n = if d.logs.length = n then some log.file else d.current? n := by
  unfold current? enter
  split
  · rename_i last
    rw [← last, List.getElem?_concat_length, Option.map_some]
  · rename_i other
    rw [List.getElem?_append]
    split
    · rfl
    · have outside : d.logs.length < n := by omega
      rw [List.getElem?_eq_none (by simp; omega), List.getElem?_eq_none (by omega)]

theorem current?_exchange {d : Desk} {k : Nat} {old : LogFile} (here : d.logs[k]? = some old)
    (log : LogFile) (fs : Files) (n : Nat) :
    (d.exchange k log fs).current? n = if k = n then some log.file else d.current? n := by
  have inside := (List.getElem?_eq_some_iff.mp here).1
  rw [current?, exchange, List.getElem?_set, if_pos inside]
  split
  · rfl
  · rfl

end Desk

/-- What others do to the names of files. -/
inductive Meddling where
  | rename (source target : String)
  | remove (path : String)
  | removeTree (path : String)
  | makeDirectory (path : String)
  /-- Open a file, and make it if it is missing. -/
  | touch (path : String)
deriving DecidableEq

def Meddling.change (fs : Files) : Meddling → Files
  | rename source target => (fs.rename source target).toOption.getD fs
  | remove path => (fs.remove path).toOption.getD fs
  | removeTree path => (fs.removeTree path).toOption.getD fs
  | makeDirectory path => (fs.makeDirectory path).toOption.getD fs
  | touch path => ((fs.openOrCreate path).map Prod.snd).toOption.getD fs

inductive Act where
  | «open» (path : String)
  /-- Clone a log file, or hand out a writer. -/
  | share (handle : Nat)
  /-- Write a text, of which so many bytes get through. The write fails if these are not all. -/
  | write (handle : Nat) (text : List UInt8) (count : Nat)
  | reopen (handle : Nat)
  | meddle (m : Meddling)
deriving DecidableEq

/-- What comes of an act, if there is such a handle. -/
def act? (d : Desk) : Act → Option Desk
  | .open path =>
    match LogFile.open d.files path with
    | .error _ => some d
    | .ok (log, fs) => some (d.enter log fs)
  | .share handle => do
    let n ← d.handles[handle]?
    return { d with handles := d.handles ++ [n] }
  | .write handle text count => do
    let n ← d.handles[handle]?
    let log ← d.logs[n]?
    return { d with files := log.write d.files (text.take count) }
  | .reopen handle => do
    let n ← d.handles[handle]?
    let log ← d.logs[n]?
    match log.reopen d.files with
    | .error _ => return d
    | .ok (log, fs) => return d.exchange n log fs
  | .meddle m => some { d with files := m.change d.files }

inductive Step (d : Desk) : Act → Desk → Prop where
  | unopened {path : String} {f : FileFailure} (failed : d.files.openOrCreate path = .error f) :
      Step d (.open path) d
  | opened {path : String} {file : Nat} {fs : Files}
      (done : d.files.openOrCreate path = .ok (file, fs)) :
      Step d (.open path) (d.enter ⟨path, file⟩ fs)
  | shared {handle n : Nat} (shares : d.handles[handle]? = some n) :
      Step d (.share handle) { d with handles := d.handles ++ [n] }
  | wrote {handle n count : Nat} {log : LogFile} {text : List UInt8}
      (shares : d.handles[handle]? = some n) (here : d.logs[n]? = some log) :
      Step d (.write handle text count)
        { d with files := d.files.append log.file (text.take count) }
  | stayed {handle n : Nat} {log : LogFile} {f : FileFailure} (shares : d.handles[handle]? = some n)
      (here : d.logs[n]? = some log) (failed : d.files.openOrCreate log.path = .error f) :
      Step d (.reopen handle) d
  | reopened {handle n file : Nat} {log : LogFile} {fs : Files}
      (shares : d.handles[handle]? = some n)
      (here : d.logs[n]? = some log) (done : d.files.openOrCreate log.path = .ok (file, fs)) :
      Step d (.reopen handle) (d.exchange n ⟨log.path, file⟩ fs)
  | meddled (m : Meddling) : Step d (.meddle m) { d with files := m.change d.files }

/-- To open a log file is to open the file at its path, nothing more. -/
theorem open_eq_ok {fs fs' : Files} {path : String} {log : LogFile} :
    LogFile.open fs path = .ok (log, fs') ↔ ∃ file, fs.openOrCreate path = .ok (file, fs') ∧
    log = ⟨path, file⟩ := by
  unfold LogFile.open
  rw [bind_eq_ok]
  constructor
  · rintro ⟨⟨file, fs''⟩, done, made⟩
    cases made
    exact ⟨file, done, rfl⟩
  · rintro ⟨file, done, rfl⟩
    exact ⟨_, done, rfl⟩

theorem open_eq_error {fs : Files} {path : String} {f : FileFailure} :
    LogFile.open fs path = .error f ↔ fs.openOrCreate path = .error f := by
  unfold LogFile.open
  cases fs.openOrCreate path with
  | error g => simp [bind, Except.bind]
  | ok r => simp [bind, Except.bind, pure, Except.pure]

/-- An act that can be done is one of the steps. -/
theorem step_of_act? {d d' : Desk} {a : Act} (done : act? d a = some d') : Step d a d' := by
  cases a with
  | «open» path =>
      simp only [act?] at done
      split at done
      · rename_i f failed
        cases done
        exact .unopened (open_eq_error.mp failed)
      · rename_i log fs opened
        obtain ⟨file, made, rfl⟩ := open_eq_ok.mp opened
        cases done
        exact .opened made
  | share handle =>
      obtain ⟨n, shares, done⟩ := Option.bind_eq_some_iff.mp done
      cases done
      exact .shared shares
  | write handle text count =>
      obtain ⟨n, shares, done⟩ := Option.bind_eq_some_iff.mp done
      obtain ⟨log, here, done⟩ := Option.bind_eq_some_iff.mp done
      cases done
      exact .wrote shares here
  | reopen handle =>
      obtain ⟨n, shares, done⟩ := Option.bind_eq_some_iff.mp done
      obtain ⟨log, here, done⟩ := Option.bind_eq_some_iff.mp done
      split at done
      · rename_i f failed
        cases done
        exact .stayed shares here (open_eq_error.mp failed)
      · rename_i log' fs opened
        obtain ⟨file, made, rfl⟩ := open_eq_ok.mp opened
        cases done
        exact .reopened shares here made
  | meddle m =>
      cases done
      exact .meddled m

/-! ### Histories -/

structure Moment where
  before : Desk
  act : Act
  after : Desk

/-- A run up to a moment, with the last act first. -/
inductive Run (start : Desk) : List Moment → Desk → Prop where
  | rest : Run start [] start
  | step {past : List Moment} {d d' : Desk} {a : Act} (run : Run start past d)
      (done : act? d a = some d') :
      Run start (⟨d, a, d'⟩ :: past) d'

def fileAt? (fs : Files) (path : String) : Option Nat :=
  match fs.find path with
  | .ok (.file id) => some id
  | _ => none

/-- The path that an act opens for the log file of a number. -/
def Moment.path? (m : Moment) (n : Nat) : Option String :=
  match m.act with
  | .open path => if m.before.logs.length = n then some path else none
  | .reopen handle =>
      if m.before.handles[handle]? = some n then m.before.logs[n]?.map LogFile.path else none
  | _ => none

/-- The file that the path of a log file names, if an act opens it with success. -/
def Moment.named? (m : Moment) (n : Nat) : Option Nat := do
  let path ← m.path? n
  if (LogFile.open m.before.files path).isOk then fileAt? m.after.files path else none

/-- The file that the path of a log file named when it was last opened, or opened again, with
success. -/
def named? (past : List Moment) (n : Nat) : Option Nat := past.findSome? (·.named? n)

/-- What an act adds to a file, if it is known to which file each handle writes. -/
def Act.adds (target? : Nat → Option Nat) (a : Act) (id : Nat) : List UInt8 :=
  match a with
  | .write handle text count => if target? handle = some id then text.take count else []
  | _ => []

/-- What a history adds to a file: all that is written through handles of log files whose path named
it when they were last opened. -/
def added : List Moment → Nat → List UInt8
  | [], _ => []
  | m :: earlier, id =>
    added earlier id ++ m.act.adds (fun handle =>
        m.before.handles[handle]?.bind (named? earlier)) id

/-! ### What a step does -/

/-- The files of a desk are numbered, and each handle has its log file. -/
structure Desk.Sound (d : Desk) : Prop where
  numbered : d.files.Numbered
  given : ∀ log ∈ d.logs, log.file < d.files.next
  shares : ∀ n ∈ d.handles, n < d.logs.length

theorem Desk.sound_ofFiles {fs : Files} (numbered : fs.Numbered) : (ofFiles fs).Sound :=
  ⟨numbered, List.forall_mem_nil _, List.forall_mem_nil _⟩

/-- Whatever others do to names, what stands in files is left. -/
theorem Meddling.leaves {fs : Files} (numbered : fs.Numbered) (m : Meddling) :
    fs.Leaves (m.change fs) := by
  have kept {r : Except FileFailure Files} (leaves : ∀ fs', r = .ok fs' → fs.Leaves fs') :
      fs.Leaves (r.toOption.getD fs) := by
    cases r with
    | error f => exact numbered.leaves
    | ok fs' => exact leaves fs' rfl
  cases m with
  | rename source target => exact kept fun _ => Files.leaves_of_rename numbered
  | remove path => exact kept fun _ => Files.leaves_of_remove numbered
  | removeTree path => exact kept fun _ => Files.leaves_of_removeTree numbered
  | makeDirectory path => exact kept fun _ => Files.leaves_of_makeDirectory numbered
  | touch path =>
      refine kept fun fs' made => ?_
      obtain ⟨⟨id, fs''⟩, opened, rfl⟩ := map_eq_ok.mp made
      exact (Files.leaves_of_openOrCreate numbered opened).1

section Steps

variable {d d' : Desk} {a : Act}

/-- Every act keeps the desk sound: a handle that is added or exchanged belongs to a file that is
there. -/
theorem Desk.Sound.step (sound : d.Sound) (step : Step d a d') : d'.Sound := by
  cases step with
  | unopened failed => exact sound
  | stayed shares here failed => exact sound
  | opened done =>
      obtain ⟨leaves, new⟩ := Files.leaves_of_openOrCreate sound.numbered done
      refine ⟨leaves.numbered, ?_, ?_⟩
      · rw [Desk.enter, List.forall_mem_append, List.forall_mem_singleton]
        exact ⟨fun log mem => Nat.lt_of_lt_of_le (sound.given log mem) leaves.next, new⟩
      · rw [Desk.enter, List.forall_mem_append, List.forall_mem_singleton, List.length_append]
        exact ⟨fun n mem => Nat.lt_succ_of_lt (sound.shares n mem), Nat.lt_succ_self _⟩
  | shared shares =>
      refine ⟨sound.numbered, sound.given, ?_⟩
      rw [List.forall_mem_append, List.forall_mem_singleton]
      exact ⟨sound.shares, sound.shares _ (List.mem_of_getElem? shares)⟩
  | wrote shares here =>
      have given := sound.given _ (List.mem_of_getElem? here)
      exact ⟨sound.numbered.append given _, sound.given, sound.shares⟩
  | reopened shares here done =>
      obtain ⟨leaves, new⟩ := Files.leaves_of_openOrCreate sound.numbered done
      refine ⟨leaves.numbered, fun log mem => ?_, fun n mem => ?_⟩
      · rcases List.mem_or_eq_of_mem_set mem with mem | rfl
        · exact Nat.lt_of_lt_of_le (sound.given log mem) leaves.next
        · exact new
      · rw [Desk.exchange, List.length_set]
        exact sound.shares n mem
  | meddled m =>
      have leaves := m.leaves sound.numbered
      exact ⟨leaves.numbered, fun log mem => Nat.lt_of_lt_of_le (sound.given log mem) leaves.next,
        sound.shares⟩

/-- A step adds to files, and nothing else. -/
theorem content_of_step (sound : d.Sound) (step : Step d a d') (id : Nat) : d'.files.content id =
    d.files.content id ++ a.adds (fun handle => d.handles[handle]?.bind d.current?) id := by
  cases step with
  | unopened failed => exact (List.append_nil _).symm
  | stayed shares here failed => exact (List.append_nil _).symm
  | shared shares => exact (List.append_nil _).symm
  | opened done =>
      have leaves := (Files.leaves_of_openOrCreate sound.numbered done).1
      exact (leaves.content id).trans (List.append_nil _).symm
  | reopened shares here done =>
      have leaves := (Files.leaves_of_openOrCreate sound.numbered done).1
      exact (leaves.content id).trans (List.append_nil _).symm
  | meddled m => exact ((m.leaves sound.numbered).content id).trans (List.append_nil _).symm
  | wrote shares here =>
      rw [Files.content_append, Act.adds]
      simp only [shares, here, Desk.current?, Option.bind_some, Option.map_some, Option.some.injEq]

theorem or_ite {α : Type} {p : Prop} [Decidable p] {a : α} {x : Option α} :
    (if p then some a else none).or x = if p then some a else x := by
  split
  · rfl
  · rfl

/-! Only one log file is opened at a time, and its path then names the file. -/

section Opening

variable {m : Moment} {n k : Nat} {path : String}

theorem Moment.named?_of_opened {file : Nat} (opens : m.path? n = if k = n then some path else none)
    (done : m.before.files.openOrCreate path = .ok (file, m.after.files)) :
    m.named? n = if k = n then some file else none := by
  have opened : LogFile.open m.before.files path = .ok (⟨path, file⟩, m.after.files) :=
    open_eq_ok.mpr ⟨file, done, rfl⟩
  rw [named?, opens]
  split
  · simp [opened, Except.isOk, Except.toBool, fileAt?, Files.find_of_openOrCreate done]
  · rfl

theorem Moment.named?_of_failed {f : FileFailure}
    (opens : m.path? n = if k = n then some path else none)
    (failed : m.before.files.openOrCreate path = .error f) : m.named? n = none := by
  rw [named?, opens]
  split
  · simp [open_eq_error.mpr failed, Except.isOk, Except.toBool]
  · rfl

theorem path?_open : Moment.path? ⟨d, .open path, d'⟩ n = if d.logs.length = n then some path
    else none := rfl

theorem path?_reopen {handle : Nat} {log : LogFile} (shares : d.handles[handle]? = some k)
    (here : d.logs[k]? = some log) :
    Moment.path? ⟨d, .reopen handle, d'⟩ n = if k = n then some log.path else none := by
  simp only [Moment.path?, shares, Option.some.injEq]
  split
  · rename_i same
    rw [← same, here, Option.map_some]
  · rfl

end Opening

/-- A log file stays with its open file, unless it is opened. -/
theorem current?_of_step (step : Step d a d') (n : Nat) :
    d'.current? n = (Moment.named? ⟨d, a, d'⟩ n).or (d.current? n) := by
  cases step with
  | shared shares => rfl
  | wrote shares here => rfl
  | meddled m => rfl
  | unopened failed => rw [Moment.named?_of_failed path?_open failed, Option.none_or]
  | stayed shares here failed =>
      rw [Moment.named?_of_failed (path?_reopen shares here) failed, Option.none_or]
  | @opened path file fs done =>
      rw [Moment.named?_of_opened (m := ⟨d, .open path, d.enter ⟨path, file⟩ fs⟩) path?_open done,
        Desk.current?_enter, or_ite]
  | @reopened handle k file log fs shares here done =>
      rw [Moment.named?_of_opened (m := ⟨d, .reopen handle, d.exchange k ⟨log.path, file⟩ fs⟩)
        (path?_reopen shares here) done, Desk.current?_exchange here, or_ite]

/-- A handle stays with its log file. -/
theorem handles_of_step (step : Step d a d') : d.handles <+: d'.handles := by
  cases step with
  | opened done => exact List.prefix_append ..
  | shared shares => exact List.prefix_append ..
  | unopened failed => exact List.prefix_rfl
  | stayed shares here failed => exact List.prefix_rfl
  | reopened shares here done => exact List.prefix_rfl
  | wrote shares here => exact List.prefix_rfl
  | meddled m => exact List.prefix_rfl

/-- A write goes to the open file of the log file. -/
theorem write_of_step {handle count : Nat} {text : List UInt8}
    (step : Step d (.write handle text count) d') :
    ∃ n file, d.handles[handle]? = some n ∧ d.current? n = some file ∧
      d'.files = d.files.append file (text.take count) := by
  cases step with
  | @wrote _ n _ log _ shares here =>
      exact ⟨n, log.file, shares, by rw [Desk.current?, here, Option.map_some], rfl⟩

/-- Opening that fails changes nothing. -/
theorem eq_of_step_of_failed (step : Step d a d') {n : Nat} {path : String} {f : FileFailure}
    (opens : Moment.path? ⟨d, a, d'⟩ n = some path)
    (failed : LogFile.open d.files path = .error f) :
    d' = d := by
  rw [open_eq_error] at failed
  cases step with
  | unopened => rfl
  | stayed => rfl
  | shared => cases opens
  | wrote => cases opens
  | meddled => cases opens
  | opened done =>
      obtain ⟨-, same⟩ := Option.ite_none_right_eq_some.mp opens
      cases same
      cases done.symm.trans failed
  | reopened shares here done =>
      rw [path?_reopen shares here] at opens
      obtain ⟨-, same⟩ := Option.ite_none_right_eq_some.mp opens
      cases same
      cases done.symm.trans failed

end Steps

/-! ### Runs -/

section Runs

variable {fs : Files} {d : Desk} {past earlier : List Moment} {m : Moment}

theorem Run.sound (run : Run (.ofFiles fs) past d) (numbered : fs.Numbered) : d.Sound := by
  induction run with
  | rest => exact Desk.sound_ofFiles numbered
  | step run done ih => exact ih.step (step_of_act? done)

/-- A log file writes to the file that its path named when it was last opened. -/
theorem Run.current?_eq (run : Run (.ofFiles fs) past d) : d.current? = named? past := by
  induction run with
  | rest => rfl
  | step run done ih =>
      funext n
      rw [current?_of_step (step_of_act? done), ih, named?, named?, List.findSome?_cons]
      cases Moment.named? _ n with
      | none => rfl
      | some file => rfl

theorem Run.content_eq (run : Run (.ofFiles fs) past d) (numbered : fs.Numbered) (id : Nat) :
    d.files.content id = fs.content id ++ added past id := by
  induction run with
  | rest => exact (List.append_nil _).symm
  | step run done ih =>
      rw [content_of_step (run.sound numbered) (step_of_act? done), ih, run.current?_eq,
        List.append_assoc]
      rfl

/-- What has led to a moment, and the moment itself. -/
theorem Run.upto (run : Run (.ofFiles fs) past d) (here : m :: earlier <:+ past) :
    Run (.ofFiles fs) earlier m.before ∧ Step m.before m.act m.after := by
  induction run with
  | rest => cases List.suffix_nil.mp here
  | step run done ih =>
      rcases List.suffix_cons_iff.mp here with last | before
      · cases last
        exact ⟨run, step_of_act? done⟩
      · exact ih before

end Runs

/-- In every file stands what stood there, and behind it, in order and each once, the texts that
were written through handles of the log files whose path named it when they were last opened with
success; nothing else changes what stands in a file. All handles of a log file, old and new, write
to that one file, each text that is written with success is added as a whole, and if a log file
cannot be opened again, everything stays as it was. -/
theorem keeps_lines {fs : Files} {d : Desk} {past : List Moment} (numbered : fs.Numbered)
    (run : Run (.ofFiles fs) past d) :
    (∀ id, d.files.content id = fs.content id ++ added past id) ∧
      (∀ (handle n : Nat), d.handles[handle]? = some n →
        ∃ id, named? past n = some id ∧ d.current? n = some id) ∧
      ∀ m earlier, m :: earlier <:+ past →
        (∀ id, m.before.files.content id <+: m.after.files.content id) ∧
        m.before.handles <+: m.after.handles ∧
        (∀ handle text count, m.act = .write handle text count → text.length ≤ count →
          ∃ n id, m.before.handles[handle]? = some n ∧ named? earlier n = some id ∧
            ∀ j, m.after.files.content j =
              m.before.files.content j ++ if j = id then text else []) ∧
        ∀ n path f, m.path? n = some path → LogFile.open m.before.files path = .error f →
          m.after = m.before := by
  refine ⟨run.content_eq numbered, fun handle n shares => ?_, fun m earlier here => ?_⟩
  · have inside := (run.sound numbered).shares n (List.mem_of_getElem? shares)
    have current : d.current? n = some d.logs[n].file := by
      rw [Desk.current?, List.getElem?_eq_getElem inside, Option.map_some]
    exact ⟨_, run.current?_eq ▸ current, current⟩
  · obtain ⟨before, step⟩ := run.upto here
    have sound := before.sound numbered
    refine ⟨fun id => ?_, handles_of_step step, fun handle text count wrote whole => ?_,
      fun n path f => eq_of_step_of_failed step⟩
    · rw [content_of_step sound step id]
      exact List.prefix_append ..
    · obtain ⟨n, file, shares, current, after⟩ := write_of_step (wrote ▸ step)
      refine ⟨n, file, shares, before.current?_eq ▸ current, fun j => ?_⟩
      rw [after, Files.content_append, List.take_of_length_le whole]
      simp only [eq_comm]

/-! ### A log file that is moved away -/

def play? (past : List Moment) (d : Desk) : List Act → Option (List Moment × Desk)
  | [] => some (past, d)
  | a :: rest => do
    let next ← act? d a
    play? (⟨d, a, next⟩ :: past) next rest

theorem run_of_play? {start d d' : Desk} {past past' : List Moment} (acts : List Act)
    (run : Run start past d) (played : play? past d acts = some (past', d')) :
    Run start past' d' := by
  induction acts generalizing past d with
  | nil =>
      cases played
      exact run
  | cons a rest ih =>
      obtain ⟨next, done, more⟩ := Option.bind_eq_some_iff.mp played
      exact ih (run.step done) more

/-- Where a schedule comes to something of a kind, there is a run to it. -/
theorem exists_run (fs : Files) (acts : List Act) (q : List Moment → Desk → Prop)
    [∀ past d, Decidable (q past d)]
    (happens : (play? [] (.ofFiles fs) acts).any (fun r => q r.1 r.2) = true) :
    ∃ past d, Run (.ofFiles fs) past d ∧ q past d := by
  obtain ⟨⟨past, d⟩, played, check⟩ := (Option.any_eq_true _ _).mp happens
  exact ⟨past, d, run_of_play? acts .rest played, of_decide_eq_true check⟩

/-- A writer is handed out, and the file is moved away. The log file is opened again, with success
at first, and then while there is a directory under its path. -/
def rotated : List Act := [.open "log", .share 0, .write 1 (Files.encode "before\n") 7,
  .meddle (.rename "log" "log.1"), .write 1 (Files.encode "late\n") 5, .reopen 0,
  .write 1 (Files.encode "after\n") 6, .meddle (.remove "log"),
  .meddle (.makeDirectory "log"), .reopen 0,
  .write 1 (Files.encode "last\n") 5]

theorem rotated_keeps_lines :
    ∃ past d, Run (.ofFiles (.ofHome "var")) past d ∧
      added past 0 = Files.encode "before\nlate\n" ∧ added past 1 = Files.encode "after\nlast\n" ∧
      named? past 0 = some 1 ∧ d.current? 0 = some 1 ∧
      ∃ m ∈ past, m.act = .reopen 0 ∧ LogFile.open m.before.files "log" = .error .isDirectory ∧
        m.after = m.before := by
  obtain ⟨past, d, run, moved, new, shares, last, m, mem, again, opens, failed⟩ :=
    exists_run (.ofHome "var") rotated
      (fun past d => d.files.content 0 = Files.encode "before\nlate\n" ∧
        d.files.content 1 = Files.encode "after\nlast\n" ∧ d.handles[1]? = some 0 ∧
        d.current? 0 = some 1 ∧
        ∃ m ∈ past, m.act = .reopen 0 ∧ m.path? 0 = some "log" ∧
          LogFile.open m.before.files "log" = .error .isDirectory)
      (by decide +kernel)
  obtain ⟨content, current, kept⟩ := keeps_lines (Files.numbered_ofHome "var") run
  obtain ⟨id, named, same⟩ := current 1 0 shares
  cases last.symm.trans same
  obtain ⟨later, earlier, split⟩ := List.append_of_mem mem
  have here : m :: earlier <:+ past := split ▸ List.suffix_append ..
  have stays := (kept m earlier here).2.2.2 0 "log" _ opens failed
  exact ⟨past, d, run, (content 0).symm.trans moved, (content 1).symm.trans new, named, last,
    m, mem, again,
    failed, stays⟩

end Vigil.LogFile
