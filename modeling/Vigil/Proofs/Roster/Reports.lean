import Mathlib.Data.List.Chain
import Vigil.Proofs.Roster.Run

/-!
What the events of a roster tell of a live state. Main statement: `Roster.reports_alternate`, along
every run they tell of each change once, whichever entries the verdicts are recorded on.
-/

namespace Vigil

open Vigil.Clock

/-- The status that is reported next after a status: what has not been seen yet counts as up. -/
def Status.opposite : Status → Status
  | .up | .unknown => .down
  | .down => .up

namespace Status

/-- What is reported is the opposite of what was. -/
theorem eq_opposite_of_isTransition {s t : Status} (h : s.isTransition t = true) :
    t = s.opposite := by
  cases s <;> cases t <;> first | rfl | cases h

/-- What is not reported has the same opposite. -/
theorem opposite_eq_of_not_isTransition {s t : Status} (known : t ≠ .unknown)
    (h : s.isTransition t = false) : t.opposite = s.opposite := by
  cases s <;> cases t <;> first | exact absurd rfl known | rfl | cases h

/-- Statuses that are known have different opposites. -/
theorem eq_of_opposite_eq {s t : Status} (hs : s ≠ .unknown) (ht : t ≠ .unknown)
    (same : s.opposite = t.opposite) : s = t := by
  cases s <;> cases t <;> first | rfl | exact absurd rfl hs | exact absurd rfl ht | cases same

/-- Every change to a known status is reported but for that of a service that is seen for the first
time and is up. -/
theorem isTransition_iff {s t : Status} (known : t ≠ .unknown) :
    s.isTransition t = true ↔ t ≠ s ∧ ¬ (s = .unknown ∧ t = .up) := by
  cases s <;> cases t <;> simp_all [isTransition]

end Status

namespace Event

def status? (e : Event) : Option Status :=
  match e.change with
  | .state s => some s
  | .version _ => none

def version? (e : Event) : Option String :=
  match e.change with
  | .state _ => none
  | .version v => some v

end Event

/-! ### One verdict -/

namespace Live

/-- The events of a verdict are events of the service, from the program itself. -/
theorem of_mem_events {l : Live} {s : Service} {v : Verdict} {time : Instant} {e : Event}
    (mem : e ∈ l.events s v time) : e.service = s.id ∧ e.source = Event.ownSource := by
  rcases List.mem_append.mp mem with mem | mem
  · rw [statusEvent, Option.mem_toList] at mem
    split at mem
    · cases mem
      exact ⟨rfl, rfl⟩
    · cases mem
  · rw [versionEvent, Option.mem_toList] at mem
    split at mem
    · cases mem
    · split at mem
      · cases mem
      · cases mem
        exact ⟨rfl, rfl⟩

/-- A verdict tells a status only if it is a transition. -/
theorem status?_events (l : Live) (s : Service) (v : Verdict) (time : Instant) :
    (l.events s v time).filterMap Event.status? =
      if l.status.isTransition v.status then [v.status] else [] := by
  have version : (l.versionEvent s v time).toList.filterMap Event.status? = [] := by
    unfold versionEvent
    split
    · rfl
    · split <;> rfl
  rw [events, List.filterMap_append, version, List.append_nil, statusEvent]
  split <;> rfl

/-- A verdict tells a version only if it brings one and that is new. -/
theorem version?_events (l : Live) (s : Service) (v : Verdict) (time : Instant) :
    (l.events s v time).filterMap Event.version? =
      match v.version with
      | none => []
      | some version => if l.version = some version then [] else [version] := by
  have status : (l.statusEvent s v time).toList.filterMap Event.version? = [] := by
    unfold statusEvent
    split <;> rfl
  rw [events, List.filterMap_append, status, List.nil_append, versionEvent]
  cases v.version with
  | none => rfl
  | some version =>
      dsimp only
      split <;> rfl

end Live

namespace Roster

/-! ### Verdicts in turn -/

/-- A verdict and the events that it has caused. -/
structure Report where
  verdict : Verdict
  events : List Event

namespace Report

def statuses (reports : List Report) : List Status :=
  reports.flatMap fun r => r.events.filterMap Event.status?

def versions (reports : List Report) : List String :=
  reports.flatMap fun r => r.events.filterMap Event.version?

@[simp] theorem statuses_cons (r : Report) (reports : List Report) :
    statuses (r :: reports) = r.events.filterMap Event.status? ++ statuses reports :=
  List.flatMap_cons

@[simp] theorem versions_cons (r : Report) (reports : List Report) :
    versions (r :: reports) = r.events.filterMap Event.version? ++ versions reports :=
  List.flatMap_cons

end Report

/-- What becomes of a live state by verdicts in turn, with their reports. -/
inductive Reported : Live → List Report → Live → Prop where
  | rest (l : Live) : Reported l [] l
  | step {l l' : Live} {reports : List Report} (s : Service) (v : Verdict) (time : Instant)
      (more : Reported (l.after v) reports l') : Reported l (⟨v, l.events s v time⟩ :: reports) l'

variable {l l' : Live} {reports : List Report}

/-- Each status that is told is the opposite of the one that was told before it. The live status may
be another one than what was told last, but has the same opposite. -/
theorem Reported.statuses (reported : Reported l reports l') {told : Status}
    (same : told.opposite = l.status.opposite) :
    (told :: Report.statuses reports).IsChain fun s t => t = s.opposite := by
  induction reported generalizing told with
  | rest => exact .singleton told
  | @step l _ _ s v time _ ih =>
      rw [Report.statuses_cons, Live.status?_events]
      split
      · rename_i reported
        refine .cons_cons ?_ (ih rfl)
        rw [same]
        exact Status.eq_opposite_of_isTransition reported
      · rename_i quiet
        refine ih (same.trans (Status.opposite_eq_of_not_isTransition v.known ?_).symm)
        simpa using quiet

/-- Each version that is told differs from the one before it. -/
theorem Reported.versions (reported : Reported l reports l') :
    (l.version.toList ++ Report.versions reports).IsChain (· ≠ ·) := by
  induction reported with
  | rest l => cases l.version <;> simp [Report.versions]
  | @step l _ _ s v time _ ih =>
      rw [Report.versions_cons, Live.version?_events]
      simp only [Live.after] at ih
      split
      · rename_i none
        simpa [none] using ih
      · rename_i version some
        split
        · rename_i known
          simpa [some, known] using ih
        · rename_i new
          rw [some, Option.some_or, Option.toList_some] at ih
          cases before : l.version with
          | none => exact ih
          | some old =>
              refine .cons_cons (fun same => new ?_) ih
              rw [before, same]

/-- The live state is what the last verdicts say. -/
theorem Reported.eq (reported : Reported l reports l') :
    l' = ⟨(reports.getLast?.map (·.verdict.status)).getD l.status,
      (reports.filterMap (·.verdict.version)).getLast?.or l.version⟩ := by
  induction reported with
  | rest => rfl
  | @step l l' reports s v time _ ih =>
      rw [ih, List.getLast?_cons, List.filterMap_cons]
      congr 1
      · cases reports.getLast? <;> rfl
      · cases h : v.version with
        | none => simp [Live.after, h]
        | some version =>
            simp only [Live.after, h, List.getLast?_cons]
            cases (reports.filterMap (·.verdict.version)).getLast? <;> rfl

/-- The live status and what was told last, or was live before, have the same opposite. -/
theorem Reported.last_status (reported : Reported l reports l') :
    l'.status.opposite = ((Report.statuses reports).getLast?.getD l.status).opposite := by
  induction reported with
  | rest => rfl
  | @step l l' reports s v time _ ih =>
      rw [ih, Report.statuses_cons, Live.status?_events]
      split
      · rw [List.singleton_append, List.getLast?_cons]
        rfl
      · rename_i quiet
        have same := Status.opposite_eq_of_not_isTransition v.known (by simpa using quiet)
        rw [List.nil_append]
        cases (Report.statuses reports).getLast? with
        | none => exact same
        | some t => rfl

/-- The live version is what was told last, or was live before. -/
theorem Reported.last_version (reported : Reported l reports l') :
    l'.version = (Report.versions reports).getLast?.or l.version := by
  induction reported with
  | rest => rfl
  | @step l l' reports s v time _ ih =>
      rw [ih, Report.versions_cons, Live.version?_events]
      cases new : v.version with
      | none => simp [Live.after, new]
      | some version =>
          simp only [Live.after, new, Option.some_or]
          split
          · rename_i known
            rw [List.nil_append, known]
          · rw [List.singleton_append, List.getLast?_cons]
            cases (Report.versions reports).getLast? <;> rfl

/-- What is told is a known status. -/
theorem Reported.known_of_told (reported : Reported l reports l') :
    ∀ t ∈ Report.statuses reports, t ≠ .unknown := by
  induction reported with
  | rest => simp [Report.statuses]
  | @step l l' reports s v time _ ih =>
      intro t mem
      rw [Report.statuses_cons, Live.status?_events] at mem
      rcases List.mem_append.mp mem with mem | mem
      · split at mem
        · rw [List.mem_singleton.mp mem]
          exact v.known
        · cases mem
      · exact ih t mem

/-- Nothing is told of the status of a service that is not known to be down as long as it is up. -/
theorem Reported.statuses_eq_nil_iff (reported : Reported l reports l') (calm : l.status ≠ .down) :
    Report.statuses reports = [] ↔ ∀ r ∈ reports, r.verdict.status = .up := by
  induction reported with
  | rest => simp [Report.statuses]
  | @step l l' reports s v time _ ih =>
      rw [Report.statuses_cons, Live.status?_events, List.append_eq_nil_iff, List.forall_mem_cons]
      constructor
      · rintro ⟨quiet, more⟩
        have first : v.status = .up := by
          have known := v.known
          cases before : l.status <;> cases after : v.status <;>
            simp_all [Status.isTransition]
        exact ⟨first, (ih (by simp [first])).mp more⟩
      · rintro ⟨first, more⟩
        change v.status = .up at first
        refine ⟨?_, (ih (by simp [first])).mpr more⟩
        rw [if_neg]
        cases before : l.status <;> simp_all [Status.isTransition]

/-- After a verdict the status is known. -/
theorem Reported.known (reported : Reported l reports l') (ne : reports ≠ []) :
    l'.status ≠ .unknown := by
  rw [reported.eq]
  cases last : reports.getLast? with
  | none => exact absurd (List.getLast?_eq_none_iff.mp last) ne
  | some r => exact r.verdict.known

/-- After verdicts that all say one status, this is the live one. -/
theorem Reported.status_of_all (reported : Reported l reports l') (ne : reports ≠ []) {t : Status}
    (all : ∀ r ∈ reports, r.verdict.status = t) : l'.status = t := by
  rw [reported.eq, List.getLast?_eq_some_getLast ne]
  exact all _ (List.getLast_mem ne)

/-! ### Whole runs -/

/-- What a deed reports of a live state, if it is a verdict on it. -/
def Moment.on? (m : Moment) (cell : Nat) : Option Report :=
  match m.deed with
  | .merge .. => none
  | .record entry verdict _ => if entry.cell = cell then some ⟨verdict, m.events⟩ else none

def reportsOn (cell : Nat) (past : List Moment) : List Report := past.filterMap (·.on? cell)

theorem reportsOn_cons (cell : Nat) (m : Moment) (past : List Moment) :
    reportsOn cell (m :: past) = (m.on? cell).toList ++ reportsOn cell past := by
  cases report : m.on? cell <;> simp [reportsOn, report]

/-- Along a run, each live state goes from verdict to verdict, and merges leave it alone. -/
theorem Run.reported {w w' : World} {past : List Moment} (run : Run w past w') {e : Monitored}
    (inside : e.cell < w.roster.lives.length) :
    Reported (w.roster.live e) (reportsOn e.cell past) (w'.roster.live e) := by
  induction run with
  | rest => exact .rest _
  | @step w w' d past _ _ ih =>
      have ih := ih (Nat.lt_of_lt_of_le inside (length_lives_act w.roster d))
      rw [reportsOn_cons]
      cases d with
      | merge build fresh reachable =>
          have longer : w.roster.lives <+: (w.roster.merge build fresh reachable).1.lives :=
            lives_merge
          rw [← live_of_longer longer inside]
          exact ih
      | record o v time =>
          change Reported ((w.roster.record o v time).1.live e) _ _ at ih
          rw [live_record w.roster inside] at ih
          by_cases same : o.cell = e.cell
          · rw [if_pos same] at ih
            have here : w.roster.live o = w.roster.live e := by rw [live, live, same]
            have report : (⟨w.roster, .record o v time, (w.roster.act (.record o v time)).2⟩ :
                Moment).on? e.cell = some ⟨v, (w.roster.live e).events o.service v time⟩ := by
              simp [Moment.on?, same, act, record, here]
            rw [report]
            exact .step o.service v time ih
          · rw [if_neg same] at ih
            have quiet : (⟨w.roster, .record o v time, (w.roster.act (.record o v time)).2⟩ :
                Moment).on? e.cell = none := if_neg same
            rw [quiet]
            exact ih

/-- A verdict tells what has changed since the live state before it. -/
theorem Run.told {w w' : World} {past : List Moment} (run : Run w past w') {m : Moment}
    (mem : m ∈ past) {entry : Monitored} {v : Verdict} {time : Instant}
    (deed : m.deed = .record entry v time) :
    m.events = (m.before.live entry).events entry.service v time := by
  induction run with
  | rest => cases mem
  | step _ _ ih =>
      rcases List.mem_cons.mp mem with rfl | mem
      · cases deed
        rfl
      · exact ih mem

/-- From any moment on, the statuses told of a live state alternate, beginning with the opposite of
what was live then; each version told differs from the one before it; and the live state is what the
last verdicts say. A verdict tells a status if it is another one than is live, unless a service that
has not been seen yet is up, and a version if it is another one than is live. -/
theorem reports_alternate {earlier past : List Moment} {w w' : World} {e : Monitored}
    (reached : Run .empty earlier w) (held : e ∈ w.handles) (run : Run w past w') :
    let reports := reportsOn e.cell past
    ((w.roster.live e).status :: Report.statuses reports).IsChain (fun s t => t = s.opposite) ∧
      ((w.roster.live e).version.toList ++ Report.versions reports).IsChain (· ≠ ·) ∧
      (w'.roster.live e).status =
        (reports.getLast?.map (·.verdict.status)).getD (w.roster.live e).status ∧
      (w'.roster.live e).version =
        (reports.filterMap (·.verdict.version)).getLast?.or (w.roster.live e).version ∧
      (reports ≠ [] → (w'.roster.live e).status ≠ .unknown) ∧
      ∀ m ∈ past, ∀ entry v time, m.deed = .record entry v time →
        m.events.filterMap Event.status? =
          (if v.status ≠ (m.before.live entry).status ∧
            ¬ ((m.before.live entry).status = .unknown ∧ v.status = .up) then [v.status] else []) ∧
        m.events.filterMap Event.version? =
          match v.version with
          | none => []
          | some version =>
              if (m.before.live entry).version = some version then [] else [version] := by
  intro reports
  have reported := run.reported ((reached.sound World.empty_sound).handles e held)
  refine ⟨reported.statuses rfl, reported.versions, congrArg Live.status reported.eq,
    congrArg Live.version reported.eq, reported.known, fun m mem entry v time deed => ?_⟩
  rw [run.told mem deed, Live.status?_events, Live.version?_events]
  simp only [Status.isTransition_iff v.known, and_self]

/-! ### Two entries of one service -/

def portService (port : String) : Service := { (default : Service) with
  id := 1
  kind := "port"
  arguments := .ofList [("port", port)]
  status := .unknown
  active := true }

def builtin : Service → Option Checker := Checker.Registry.builtin.builder default

def comesIn : List Deed := [.merge builtin [portService "80"] true]

def entryAfter (deeds : List Deed) : Monitored :=
  ((play? .empty deeds).bind fun (_, w) => w.roster.entry? 1).getD default

def firstEntry : Monitored := entryAfter comesIn

def movesOn : Deed := .merge builtin [portService "8080"] true

def secondEntry : Monitored := entryAfter (comesIn ++ [movesOn])

/-- A worker that has got hold of the first entry reports the outage, and another one its end. -/
def lateVerdicts : List Deed :=
  [movesOn, .record firstEntry (.down "refused") default, .record secondEntry (.up "open") default,
    .record firstEntry (.up "open") default]

theorem lateVerdicts_alternate :
    ∃ earlier past w w', Run .empty earlier w ∧ firstEntry ∈ w.handles ∧ Run w past w' ∧
      Report.statuses (reportsOn firstEntry.cell past) = [.down, .up] ∧
      ((w.roster.live firstEntry).status ::
        Report.statuses (reportsOn firstEntry.cell past)).IsChain (fun s t => t = s.opposite) ∧
      (w'.roster.live firstEntry).status ≠ .unknown := by
  obtain ⟨earlier, w, past, w', reached, run, held, told⟩ := exists_runs comesIn lateVerdicts
    (fun w past _ => firstEntry ∈ w.handles ∧
      Report.statuses (reportsOn firstEntry.cell past) = [.down, .up])
    (by decide +kernel)
  obtain ⟨alternate, -, -, -, known, -⟩ := reports_alternate reached held run
  refine ⟨earlier, past, w, w', reached, held, run, told, alternate, known ?_⟩
  intro none
  rw [none] at told
  cases told

end Roster

end Vigil
