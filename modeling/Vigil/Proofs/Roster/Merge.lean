import Vigil.Proofs.Roster.Run

/-!
What a merge makes of a roster, entry by entry.

Main definition: `Roster.chosen?`, the service of a fresh list that decides on an entry. Main
statements: `Roster.entry?_merge_cases`, an entry stays as it is or is made for the service that
decides on it; `Roster.Proper.merge`, each entry stands under its own service and has a live state
of its own.
-/

namespace Vigil

namespace Roster

/-- The first service of a number in a fresh list that may have an entry. -/
def chosen? (r : Roster) (build : Service → Option Checker) (fresh : List Service) (id : Int) :
    Option Service :=
  fresh.find? fun s => s.id = id && r.accepts build s

section Choosing

variable {r : Roster} {build : Service → Option Checker} {fresh done : List Service} {s : Service}
  {id : Int}

theorem chosen?_eq_none_iff :
    r.chosen? build fresh id = none ↔ ∀ s ∈ fresh, s.id = id → r.accepts build s = false := by
  simp [chosen?, List.find?_eq_none]

theorem chosen?_append (rest : List Service) : r.chosen? build (done ++ rest) id =
    (r.chosen? build done id).or (r.chosen? build rest id) := List.find?_append

theorem chosen?_singleton : r.chosen? build [s] id =
    if s.id = id ∧ r.accepts build s = true then some s else none := by
  by_cases here : s.id = id <;> cases accepted : r.accepts build s <;>
    simp [chosen?, here, accepted]

/-- The service that decides on an entry has its number and may have it. -/
theorem of_chosen?_eq_some (chosen : r.chosen? build fresh id = some s) :
    s ∈ fresh ∧ s.id = id ∧ r.accepts build s = true := by
  have holds := List.find?_some chosen
  simp only [Bool.and_eq_true, decide_eq_true_eq] at holds
  exact ⟨List.mem_of_find?_eq_some chosen, holds.1, holds.2⟩

end Choosing

/-! ### Rosters in the making -/

/-- An entry of a merge stays as it was for a service, or is made for it. -/
def Settles (r : Roster) (build : Service → Option Checker) (id : Int) (s : Service)
    (e : Monitored) :
    Prop :=
  r.entry? id = some e ∧ e.service.sameTarget s = true ∨ e.service = s ∧ (build s).isSome = true

/-- A roster in the making, with what its entries are made from. -/
structure Described (r : Roster) (build : Service → Option Checker) (done : List Service)
    (d : Roster) : Prop extends Drafted r build done d where
  present : ∀ id e, d.entry? id = some e →
    ∃ s, r.chosen? build done id = some s ∧ r.Settles build id s e
  brought : ∀ id e, d.entry? id = some e → r.entry? id = none →
    d.lives[e.cell]? = some (.ofService e.service)
  apart : ∀ id id' e e', d.entry? id = some e → d.entry? id' = some e' → r.entry? id = none →
    r.entry? id' = none → e.cell = e'.cell → id = id'

section Describing

variable {r d d' : Roster} {build : Service → Option Checker} {done : List Service} {s : Service}

theorem Described.nothing (r : Roster) (build : Service → Option Checker) :
    Described r build [] { r with entries := .empty } where
  toDrafted := .nothing r build
  present id e found := by cases found
  brought id e found := by cases found
  apart id id' e e' found := by cases found

/-- A service that is chosen stays chosen. -/
theorem chosen?_of_done {id : Int} {t : Service} (rest : List Service)
    (chosen : r.chosen? build done id = some t) : r.chosen? build (done ++ rest) id = some t := by
  rw [chosen?_append, chosen]
  rfl

/-- A service that may have an entry, where there is none yet, is the one that is chosen. -/
theorem Drafted.chosen?_eq (drafted : Drafted r build done d) (accepted : r.accepts build s = true)
    (absent : d.entry? s.id = none) : r.chosen? build (done ++ [s]) s.id = some s := by
  have before : r.chosen? build done s.id = none :=
    chosen?_eq_none_iff.mpr ((drafted.absent s.id).mp absent)
  rw [chosen?_append, before, chosen?_singleton, if_pos ⟨rfl, accepted⟩]
  rfl

/-- An entry is set in one of three ways, and each keeps the description: other entries are as they
were, and the new one is told by the service. -/
theorem Described.insert (described : Described r build done d)
    (accepted : r.accepts build s = true) (absent : d.entry? s.id = none) {e : Monitored}
    {lives : List Live} {made : Nat} (longer : d.lives <+: lives)
    (drafted : Drafted r build (done ++ [s]) ⟨d.entries.insert s.id e, lives, made⟩)
    (settles : r.Settles build s.id s e)
    (new : r.entry? s.id = none →
      e.cell = d.lives.length ∧ lives[e.cell]? = some (.ofService e.service)) :
    Described r build (done ++ [s]) ⟨d.entries.insert s.id e, lives, made⟩ := by
  have found (id : Int) : Roster.entry? ⟨d.entries.insert s.id e, lives, made⟩ id =
      if s.id = id then some e else d.entry? id := Keyed.get?_insert _ _ _ _
  refine ⟨drafted, ?_, ?_, ?_⟩
  · intro id e' here
    rw [found] at here
    split at here
    · rename_i same
      subst same
      cases here
      exact ⟨s, described.chosen?_eq accepted absent, settles⟩
    · obtain ⟨t, chosen, settles⟩ := described.present id e' here
      exact ⟨t, chosen?_of_done [s] chosen, settles⟩
  · intro id e' here unknown
    rw [found] at here
    split at here
    · rename_i same
      subst same
      cases here
      exact (new unknown).2
    · have old := described.brought id e' here unknown
      obtain ⟨inside, -⟩ := List.getElem?_eq_some_iff.mp old
      obtain ⟨rest, rfl⟩ := longer
      exact (List.getElem?_append_left inside).trans old
  · intro id id' e₁ e₂ here here' unknown unknown' same
    rw [found] at here here'
    -- The new entry has a live state behind all others.
    split at here <;> split at here'
    · rename_i first second
      exact first.symm.trans second
    · rename_i first _
      subst first
      cases here
      have bound := (described.fresh id' e₂ here' unknown').2
      have last := (new unknown).1
      omega
    · rename_i second
      subst second
      cases here'
      have bound := (described.fresh id e₁ here unknown).2
      have last := (new unknown').1
      omega
    · exact described.apart id id' e₁ e₂ here here' unknown unknown' same

/-- What is said of a roster in the making holds after one more service. -/
theorem Described.enter (described : Described r build done d) (entered : Entered r build d s d') :
    Described r build (done ++ [s]) d' := by
  have drafted := described.toDrafted.enter entered
  cases entered with
  | passed reason =>
      refine ⟨drafted, ?_, described.brought, described.apart⟩
      intro id e found
      obtain ⟨t, chosen, settles⟩ := described.present id e found
      exact ⟨t, chosen?_of_done [s] chosen, settles⟩
  | kept accepted absent before same =>
      refine described.insert accepted absent List.prefix_rfl drafted (.inl ⟨before, same⟩) ?_
      intro unknown
      cases before.symm.trans unknown
  | updated accepted absent before other built =>
      refine described.insert accepted absent List.prefix_rfl drafted
        (.inr ⟨rfl, by simp [built]⟩) ?_
      intro unknown
      cases before.symm.trans unknown
  | added accepted absent unknown built =>
      refine described.insert accepted absent (List.prefix_append _ _) drafted
        (.inr ⟨rfl, by simp [built]⟩) ?_
      intro _
      exact ⟨rfl, by simp⟩

theorem described_draft (r : Roster) (build : Service → Option Checker) (fresh : List Service) :
    Described r build fresh (r.draft build fresh).1 := by
  refine draft_induction r build fresh (.nothing r build) ?_
  intro done s rest d d' _ described entered
  exact described.enter entered

end Describing

/-! ### Merges -/

section Merging

variable {r : Roster} {build : Service → Option Checker} {fresh : List Service} {reachable : Bool}
  {id : Int} {e : Monitored}

/-- An entry after a merge is the one that was there, for a service that is the same target, or is
made for the service that decides on it. -/
theorem entry?_merge_cases (ne : fresh ≠ [])
    (found : Roster.entry? (r.merge build fresh reachable).1 id = some e) :
    ∃ s, r.chosen? build fresh id = some s ∧ r.Settles build id s e := by
  rw [merge_of_ne_nil ne] at found
  exact (described_draft r build fresh).present id e found

/-- A service that comes into the roster starts with what was last known of it. -/
theorem live_of_merge (ne : fresh ≠ [])
    (found : Roster.entry? (r.merge build fresh reachable).1 id = some e)
    (unknown : r.entry? id = none) :
    e.service ∈ fresh ∧ e.service.id = id ∧
      Roster.live (r.merge build fresh reachable).1 e = .ofService e.service := by
  obtain ⟨s, chosen, settles⟩ := entry?_merge_cases ne found
  obtain ⟨mem, number, -⟩ := of_chosen?_eq_some chosen
  rcases settles with ⟨before, -⟩ | ⟨rfl, -⟩
  · cases unknown.symm.trans before
  · refine ⟨mem, number, ?_⟩
    rw [merge_of_ne_nil ne] at found ⊢
    rw [live, (described_draft r build fresh).brought id e found unknown]
    rfl

/-- Each entry stands under its own service and has a live state of its own. -/
structure Proper (r : Roster) : Prop where
  sound : r.Sound
  named : ∀ id e, r.entry? id = some e → e.service.id = id
  apart : ∀ id id' e e', r.entry? id = some e → r.entry? id' = some e' → e.cell = e'.cell → id = id'

/-- No two entries of a merged roster share a live state, and none stands under a number that is not
its own. -/
theorem Proper.merge (proper : r.Proper) : (r.merge build fresh reachable).1.Proper := by
  by_cases ne : fresh = []
  · subst ne
    cases reachable with
    | false => exact proper
    | true =>
        rw [merge_cleared]
        constructor
        · intro id e found
          cases found
        · intro id e found
          cases found
        · intro id id' e e' found
          cases found
  · refine ⟨proper.sound.merge, ?_, ?_⟩
    · intro id e found
      obtain ⟨s, chosen, settles⟩ := entry?_merge_cases ne found
      rcases settles with ⟨before, -⟩ | ⟨rfl, -⟩
      · exact proper.named id e before
      · exact (of_chosen?_eq_some chosen).2.1
    · intro id id' e e' found found' same
      have old (id : Int) (o : Monitored) (before : r.entry? id = some o) :=
        proper.sound id o before
      have cells := cell_of_merge ne found
      have cells' := cell_of_merge ne found'
      cases before : r.entry? id with
      | some o =>
          cases before' : r.entry? id' with
          | some o' =>
              rw [cells.1 o before, cells'.1 o' before'] at same
              exact proper.apart id id' o o' before before' same
          | none =>
              have := cells.1 o before
              have := (cells'.2 before').1
              have := old id o before
              omega
      | none =>
          cases before' : r.entry? id' with
          | some o' =>
              have := cells'.1 o' before'
              have := (cells.2 before).1
              have := old id' o' before'
              omega
          | none =>
              rw [merge_of_ne_nil ne] at found found'
              exact (described_draft r build fresh).apart id id' e e' found found' before
                before' same

theorem Proper.record (proper : r.Proper) (o : Monitored) (v : Verdict) (time : Clock.Instant) :
    (r.record o v time).1.Proper := by
  refine ⟨?_, proper.named, proper.apart⟩
  intro id e found
  simpa [Roster.record, setLive] using proper.sound id e found

theorem Proper.empty : Roster.empty.Proper := by
  constructor
  · intro id e found
    cases found
  · intro id e found
    cases found
  · intro id id' e e' found
    cases found

/-- An entry after a merge has the live state of an entry of its service, or a new one. -/
theorem Proper.origin (proper : r.Proper)
    (mem : e ∈ Roster.list (r.merge build fresh reachable).1) :
    (∃ o ∈ r.list, o.cell = e.cell ∧ o.service.id = e.service.id) ∨ r.lives.length ≤ e.cell := by
  by_cases ne : fresh = []
  · subst ne
    cases reachable with
    | false => exact .inl ⟨e, mem, rfl, rfl⟩
    | true =>
        obtain ⟨id, found⟩ := mem_list.mp mem
        cases found
  · obtain ⟨id, found⟩ := mem_list.mp mem
    obtain ⟨taken, new⟩ := cell_of_merge ne found
    cases before : r.entry? id with
    | none => exact .inr (new before).1
    | some o =>
        refine .inl ⟨o, mem_list.mpr ⟨id, before⟩, (taken o before).symm, ?_⟩
        rw [proper.named id o before, proper.merge.named id e found]

end Merging

/-! ### Live states and their services -/

/-- A roster in which each live state belongs to one service, also with the entries that somebody
may still hold. -/
structure World.Owned (w : World) : Prop where
  roster : w.roster.Proper
  held : ∀ e ∈ w.roster.list, e ∈ w.handles
  inside : ∀ e ∈ w.handles, e.cell < w.roster.lives.length
  one : ∀ e ∈ w.handles, ∀ e' ∈ w.handles, e.cell = e'.cell → e.service.id = e'.service.id

theorem World.Owned.empty : World.empty.Owned where
  roster := .empty
  held _ mem := by cases mem
  inside _ mem := by cases mem
  one _ mem := by cases mem

/-- No deed hands a live state over from one service to another. -/
theorem World.Owned.after {w : World} (owned : w.Owned) (d : Deed) : (w.after d).Owned := by
  have sound : (w.after d).Sound :=
    World.Sound.after ⟨owned.roster.sound, owned.inside⟩ d
  have later (e : Monitored) (mem : e ∈ (w.after d).roster.list) : e ∈ (w.after d).handles :=
    List.mem_append_right _ mem
  cases d with
  | record o v time =>
      have same (e : Monitored) (mem : e ∈ (w.after (.record o v time)).handles) : e ∈
        w.handles := by
        rcases List.mem_append.mp mem with mem | mem
        · exact mem
        · exact owned.held e mem
      refine ⟨owned.roster.record o v time, later, sound.handles, ?_⟩
      intro e mem e' mem'
      exact owned.one e (same e mem) e' (same e' mem')
  | merge build fresh reachable =>
      have proper : (w.after (.merge build fresh reachable)).roster.Proper := owned.roster.merge
      have between (e e' : Monitored) (old : e ∈ w.handles)
          (new : e' ∈ (w.after (.merge build fresh reachable)).roster.list)
            (same : e.cell = e'.cell) :
          e.service.id = e'.service.id := by
        rcases owned.roster.origin new with ⟨o, mem, cell, number⟩ | behind
        · exact (owned.one e old o (owned.held o mem) (same.trans cell.symm)).trans number
        · have bound := owned.inside e old
          omega
      refine ⟨proper, later, sound.handles, ?_⟩
      intro e mem e' mem' same
      rcases List.mem_append.mp mem with old | new <;>
        rcases List.mem_append.mp mem' with old' | new'
      · exact owned.one e old e' old' same
      · exact between e e' old new' same
      · exact (between e' e old' new same.symm).symm
      · obtain ⟨id, found⟩ := mem_list.mp new
        obtain ⟨id', found'⟩ := mem_list.mp new'
        rw [proper.named id e found, proper.named id' e' found']
        exact proper.apart id id' e e' found found' same

theorem Run.owned {w w' : World} {past : List Moment} (run : Run w past w') (owned : w.Owned) :
    w'.Owned := by
  induction run with
  | rest => exact owned
  | step _ _ ih => exact ih (owned.after _)

/-- Whoever holds an entry goes on holding it. -/
theorem Run.handles {w w' : World} {past : List Moment} (run : Run w past w') {e : Monitored}
    (mem : e ∈ w.handles) : e ∈ w'.handles := by
  induction run with
  | rest => exact mem
  | step _ _ ih => exact ih (List.mem_append_left _ mem)

end Roster

end Vigil
