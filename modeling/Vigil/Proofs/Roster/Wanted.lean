import Mathlib.Data.List.Nodup
import Mathlib.Data.List.Perm.Basic
import Vigil.Proofs.Roster.Reports
import Vigil.Proofs.Roster.Settled

/-!
What a merge makes of a roster, by the fresh list alone. Whether an entry is taken over or made anew
does not show, since in a roster that one registry has filled each entry has the check that a
registry would set up for it again.

Main definitions: `Roster.wanted?`, the first service of a number that is to be checked and can be;
`Roster.Faithful`, entries have the checks that their services ask for. Main statements:
`Roster.size_of_merge`, the counts of a merge add up; `Roster.merge_as_wanted`, the services wanted
are those with an entry, and each entry is for the one that is wanted.
-/

namespace Vigil

open Vigil.Clock

namespace Roster

/-! ### What a fresh list wants -/

/-- The first service of a number in a fresh list that is to be checked and whose check can be set
up. -/
def wanted? (build : Service → Option Checker) (fresh : List Service) (id : Int) : Option Service :=
  fresh.find? fun s => s.id = id && s.active && (build s).isSome

theorem wanted?_isSome_iff {build : Service → Option Checker} {fresh : List Service} {id : Int} :
    (wanted? build fresh id).isSome = true ↔
      ∃ s ∈ fresh, s.id = id ∧ s.active = true ∧ (build s).isSome = true := by
  simp [wanted?, List.find?_isSome, and_assoc]

/-- Each entry has the check that its service asks for. -/
def Faithful (build : Service → Option Checker) (r : Roster) : Prop :=
  ∀ id e, r.entry? id = some e → build e.service = some e.checker

section Merging

variable {r : Roster} {build : Service → Option Checker} {fresh : List Service} {reachable : Bool}
  {id : Int} {e : Monitored}

theorem Faithful.empty : Faithful build .empty := by
  intro id e found
  cases found

/-- An entry that is not the one of before has a check that was set up for it. -/
theorem built_of_draft (found : Roster.entry? (r.draft build fresh).1 id = some e) :
    r.entry? id = some e ∨ build e.service = some e.checker := by
  suffices all : ∀ id e, Roster.entry? (r.draft build fresh).1 id = some e →
      r.entry? id = some e ∨ build e.service = some e.checker from all id e found
  refine draft_induction r build fresh (p := fun _ d => ∀ id e, d.entry? id = some e →
    r.entry? id = some e ∨ build e.service = some e.checker) (fun id e found => by cases found) ?_
  intro done s rest d d' _ old entered
  -- The only entry that is new is the one of the service that is entered.
  have new {e' : Monitored} {lives : List Live} {made : Nat}
      (source : r.entry? s.id = some e' ∨ build e'.service = some e'.checker) (id : Int)
        (e : Monitored)
      (found : Roster.entry? ⟨d.entries.insert s.id e', lives, made⟩ id = some e) :
      r.entry? id = some e ∨ build e.service = some e.checker := by
    change (d.entries.insert s.id e').get? id = some e at found
    rw [Keyed.get?_insert] at found
    split at found
    · rename_i here
      cases found
      exact here ▸ source
    · exact old id e found
  cases entered with
  | passed => exact old
  | kept accepted absent before => exact new (.inl before)
  | updated accepted absent before other built => exact new (.inr built)
  | added accepted absent unknown built => exact new (.inr built)

/-- A merge sets up a check anew for every service that asks for another one than before. -/
theorem Faithful.merge (faithful : Faithful build r) :
    Faithful build (r.merge build fresh reachable).1 := by
  intro id e found
  by_cases ne : fresh = []
  · subst ne
    cases reachable with
    | false => exact faithful id e found
    | true => cases found
  · rw [merge_of_ne_nil ne] at found
    rcases built_of_draft found with before | built
    · exact faithful id e before
    · exact built

/-- In a roster whose entries have the checks that they ask for, an entry that is the same target
helps no service that could not be set up. -/
theorem accepts_eq (steady : Steady build) (proper : r.Proper) (faithful : Faithful build r)
    (s : Service) :
    r.accepts build s = (s.active && (build s).isSome) := by
  unfold accepts
  cases before : r.entry? s.id with
  | none => rfl
  | some o =>
      cases same : o.service.sameTarget s with
      | false => simp [same]
      | true =>
          have built := faithful s.id o before
          rw [steady o.service s (proper.named s.id o before) same] at built
          simp [same, built]

theorem chosen?_eq_wanted? (steady : Steady build) (proper : r.Proper) (faithful : Faithful build r)
    (id : Int) : r.chosen? build fresh id = wanted? build fresh id := by
  unfold chosen? wanted?
  congr 1
  funext s
  rw [accepts_eq steady proper faithful, Bool.and_assoc]

/-- A service has an entry after a merge if one is chosen for it. -/
theorem isSome_entry?_merge (ne : fresh ≠ []) :
    (Roster.entry? (r.merge build fresh reachable).1 id).isSome =
    (r.chosen? build fresh id).isSome := by
  have iff : Roster.entry? (r.merge build fresh reachable).1 id = none ↔
      r.chosen? build fresh id = none :=
    (entry?_merge_eq_none ne id).trans chosen?_eq_none_iff.symm
  rw [Bool.eq_iff_iff, Option.isSome_iff_ne_none, Option.isSome_iff_ne_none]
  exact not_congr iff

/-- An entry of a merge is for the service that is wanted, as if its check had just been set up. -/
theorem entry?_of_merge (steady : Steady build) (proper : r.Proper) (faithful : Faithful build r)
    (ne : fresh ≠ []) (found : Roster.entry? (r.merge build fresh reachable).1 id = some e) :
    ∃ s, wanted? build fresh id = some s ∧ e.service.id = id ∧ e.service.sameTarget s = true ∧
      build s = some e.checker ∧ (r.entry? id = none → e.service = s) := by
  obtain ⟨s, chosen, settles⟩ := entry?_merge_cases ne found
  have named : e.service.id = id := proper.merge.named id e found
  have number : s.id = id := (of_chosen?_eq_some chosen).2.1
  have same : e.service.sameTarget s = true := by
    rcases settles with ⟨-, same⟩ | ⟨rfl, -⟩
    · exact same
    · exact e.service.sameTarget_refl
  refine ⟨s, ?_, named, same, ?_, fun unknown => ?_⟩
  · rw [← chosen?_eq_wanted? steady proper faithful, chosen]
  · rw [← steady e.service s (named.trans number.symm) same]
    exact faithful.merge id e found
  · rcases settles with ⟨before, -⟩ | ⟨here, -⟩
    · cases unknown.symm.trans before
    · exact here

end Merging

/-! ### How many entries there are -/

/-- What has been counted of a roster in the making: its entries of services that had one before,
and those that had none. -/
structure Tallied (r : Roster) (d : Draft) : Prop where
  known : (d.1.entries.keys.filter fun id => r.entries.contains id).length =
    d.2.unchanged + d.2.updated
  unknown : (d.1.entries.keys.filter fun id => !r.entries.contains id).length = d.2.added

section Counting

variable {r : Roster} {build : Service → Option Checker} {fresh : List Service} {reachable : Bool}

theorem length_filter_keys_insert {m : Keyed Int Monitored} {id : Int} (absent : m.get? id = none)
    (e : Monitored) (p : Int → Bool) :
    ((m.insert id e).keys.filter p).length = (m.keys.filter p).length + if p id then 1 else 0 := by
  rw [((Keyed.perm_keys_insert absent e).filter p).length_eq, List.filter_cons]
  split <;> rfl

/-- A new entry is counted once, by whether its service had one before. -/
theorem Tallied.insert {d : Roster} {n n' : MergeSummary} (tallied : Tallied r (d, n)) {id : Int}
    (absent : d.entries.get? id = none) {e : Monitored} {lives : List Live} {made : Nat}
    (known : n'.unchanged + n'.updated =
      n.unchanged + n.updated + if r.entries.contains id then 1 else 0)
    (unknown : n'.added = n.added + if r.entries.contains id then 0 else 1) :
    Tallied r (⟨d.entries.insert id e, lives, made⟩, n') where
  known := by
    rw [known, length_filter_keys_insert absent, tallied.known]
  unknown := by
    rw [unknown, length_filter_keys_insert absent, tallied.unknown]
    cases r.entries.contains id <;> rfl

/-- One more service is counted by whether it had an entry before. -/
theorem Tallied.enter {d : Draft} (tallied : Tallied r d) (s : Service) :
    Tallied r (Roster.enter d s (receive build r.entries d.1.entries s)) := by
  obtain ⟨d, n⟩ := d
  unfold receive
  split
  · exact tallied
  · split
    · exact tallied
    · rename_i absent
      rw [Keyed.contains_eq] at absent
      have absent := Option.not_isSome_iff_eq_none.mp absent
      split
      · rename_i unknown
        have unknown : r.entries.contains s.id = false := by simp [Keyed.contains_eq, unknown]
        split
        · exact ⟨tallied.known, tallied.unknown⟩
        · exact tallied.insert absent (by simp [unknown]) (by simp [unknown])
      · rename_i known
        have known : r.entries.contains s.id = true := by simp [Keyed.contains_eq, known]
        split
        · refine tallied.insert absent ?_ (by simp [known])
          simp only [known, if_true]
          omega
        · split
          · exact ⟨tallied.known, tallied.unknown⟩
          · exact tallied.insert absent (by simp [known, Nat.add_assoc]) (by simp [known])

theorem tallied_draft (r : Roster) (build : Service → Option Checker) (fresh : List Service) :
    Tallied r (r.draft build fresh) :=
  List.foldlRecOn fresh _ ⟨rfl, rfl⟩ fun _ tallied s _ => tallied.enter s

/-- Two maps have as many keys in common as the one has in the other. -/
theorem length_common_keys (m m' : Keyed Int Monitored) :
    (m.keys.filter fun id => m'.contains id).length =
    (m'.keys.filter fun id => m.contains id).length := by
  refine ((List.perm_ext_iff_of_nodup (m.nodup_keys.filter _) (m'.nodup_keys.filter _)).mpr
    fun id => ?_).length_eq
  rw [List.mem_filter, List.mem_filter, Keyed.mem_keys, Keyed.mem_keys, and_comm]

/-- The entries of a map are those that another map has as well, and those that it has not. -/
theorem size_eq_add (m m' : Keyed Int Monitored) :
    m.size = (m.keys.filter fun id => m'.contains id).length +
      (m.keys.filter fun id => !m'.contains id).length := by
  have keys : m.size = m.keys.length := (List.length_map _).symm
  rw [keys, ← List.countP_eq_length_filter, ← List.countP_eq_length_filter]
  simpa using List.length_eq_countP_add_countP (fun id => m'.contains id)

/-- The counts of a merge add up: before, there were the entries that have stayed and those that
have gone, and afterwards there are those that have stayed and those that have come. -/
theorem size_of_merge (ne : fresh ≠ []) {r' : Roster} {n : MergeSummary}
    (merged : r.merge build fresh reachable = (r', n)) :
    r.entries.size = n.unchanged + n.updated + n.removed ∧
      r'.entries.size = n.unchanged + n.updated + n.added ∧
      n.added = (r'.entries.keys.filter fun id => !r.entries.contains id).length ∧
      n.removed = (r.entries.keys.filter fun id => !r'.entries.contains id).length := by
  have tallied := tallied_draft r build fresh
  rcases drafted : r.draft build fresh with ⟨next, done⟩
  rw [drafted] at tallied
  have nonempty : fresh.isEmpty = false := by simpa using ne
  rw [Roster.merge, nonempty, drafted] at merged
  cases merged
  refine ⟨?_, ?_, tallied.unknown.symm, rfl⟩
  · rw [size_eq_add r.entries r'.entries, length_common_keys, tallied.known]
  · rw [size_eq_add r'.entries r.entries, tallied.known, tallied.unknown]

end Counting

/-! ### Rosters of one registry -/

def Deed.BuildsBy (build : Service → Option Checker) : Deed → Prop
  | .merge build' _ _ => build' = build
  | .record .. => True

theorem Run.faithful {build : Service → Option Checker} {w w' : World} {past : List Moment}
    (run : Run w past w') (alike : ∀ m ∈ past, m.deed.BuildsBy build)
    (faithful : w.roster.Faithful build) : w'.roster.Faithful build := by
  induction run with
  | rest => exact faithful
  | @step w w' d past _ _ ih =>
      obtain ⟨first, more⟩ := List.forall_mem_cons.mp alike
      refine ih more ?_
      cases d with
      | merge build' fresh reachable =>
          cases first
          exact faithful.merge
      | record o v time => exact faithful

/-- The check that a registry sets up for a service. -/
theorem builder_eq_some {registry : Checker.Registry} {default : Duration} {s : Service}
    {c : Checker} :
    registry.builder default s = some c ↔ registry.build s default = .ok c := by
  unfold Checker.Registry.builder
  cases registry.build s default with
  | error => simp [Except.toOption]
  | ok => simp [Except.toOption]

theorem isSome_builder {registry : Checker.Registry} {default : Duration} {s : Service} :
    (registry.builder default s).isSome = true ↔ ∃ c, registry.build s default = .ok c := by
  simp only [Option.isSome_iff_exists, builder_eq_some]

/-- What a list that is not empty makes of a roster, where one registry has set up all checks so
far. There are entries for those numbers under which the list has a service that is to be checked
and can be. Each entry agrees with the first such service in all that makes a target, and has the
check that would be set up for that service now, whether it was taken over or made anew. It shares
the live state of the entry that the number had before; if there was none, it has one of its own, as
the service tells it. And the counts add up. -/
theorem merge_as_wanted {registry : Checker.Registry} {default : Duration}
    (steady : registry.Steady) {earlier : List Moment} {w : World} (reached : Run .empty earlier w)
    (alike : ∀ m ∈ earlier, m.deed.BuildsBy (registry.builder default)) {fresh : List Service}
    (ne : fresh ≠ []) {reachable : Bool} {r : Roster} {n : MergeSummary}
    (merged : w.roster.merge (registry.builder default) fresh reachable = (r, n)) :
    (∀ id, (r.entry? id).isSome = true ↔
      ∃ s ∈ fresh, s.id = id ∧ s.active = true ∧ ∃ c, registry.build s default = .ok c) ∧
    (∀ id e, r.entry? id = some e →
      ∃ s, wanted? (registry.builder default) fresh id = some s ∧
        e.service.id = id ∧ e.service.sameTarget s = true ∧
        registry.build s default = .ok e.checker ∧
        (∀ o, w.roster.entry? id = some o → e.cell = o.cell ∧ r.live e = w.roster.live o) ∧
        (w.roster.entry? id = none →
          r.live e = .ofService s ∧ ∀ o ∈ w.handles, o.cell ≠ e.cell)) ∧
    w.roster.entries.size = n.unchanged + n.updated + n.removed ∧
    r.entries.size = n.unchanged + n.updated + n.added ∧
    n.added = (r.entries.keys.filter fun id => !w.roster.entries.contains id).length ∧
    n.removed = (w.roster.entries.keys.filter fun id => !r.entries.contains id).length := by
  have owned := reached.owned World.Owned.empty
  have faithful := reached.faithful alike Faithful.empty
  have steady := steady.builder default
  obtain rfl : (w.roster.merge (registry.builder default) fresh reachable).1 = r := by rw [merged]
  refine ⟨fun id => ?_, fun id e found => ?_, size_of_merge ne merged⟩
  · rw [isSome_entry?_merge ne, chosen?_eq_wanted? steady owned.roster faithful, wanted?_isSome_iff]
    simp only [isSome_builder]
  · obtain ⟨s, wanted, number, target, built, new⟩ :=
      entry?_of_merge steady owned.roster faithful ne found
    obtain ⟨taken, behind⟩ := cell_of_merge ne found
    refine ⟨s, wanted, number, target, builder_eq_some.mp built, fun o before => ?_,
      fun unknown => ?_⟩
    · have inside := owned.roster.sound id o before
      have cell := taken o before
      refine ⟨cell, ?_⟩
      have kept : Roster.live (w.roster.merge (registry.builder default) fresh reachable).1 o =
          w.roster.live o := live_of_longer lives_merge inside
      rw [← kept, live, live, cell]
    · refine ⟨new unknown ▸ (live_of_merge ne found unknown).2.2, fun o held same => ?_⟩
      have inside := owned.inside o held
      have least := (behind unknown).1
      omega

/-! ### A list of all kinds -/

def loginService (id : Int) : Service := { portService "22" with
  id
  kind := "ssh" }

def threeComeIn : Deed := .merge builtin [portService "80", loginService 2, loginService 3] true

/-- The first service is named three times, at first not to be checked and then with a port that is
none; the second one moves, the third one is missing, and the fourth one is new. -/
def mixedList : List Service :=
  [{ portService "80" with active := false }, portService "eighty", portService "80",
    { portService "8080" with id := 2 }, loginService 2, loginService 4]

theorem mixedList_as_wanted :
    ∃ earlier w r n o e s, Run .empty earlier w ∧ w.roster.merge builtin mixedList true = (r, n) ∧
      n = ⟨1, 1, 1, 1, 1⟩ ∧ w.roster.entries.size = 3 ∧ r.entries.size = 3 ∧
      w.roster.entry? 2 = some o ∧ r.entry? 2 = some e ∧ o.checker ≠ e.checker ∧ e.cell = o.cell ∧
      wanted? builtin mixedList 2 = some s ∧
      Checker.Registry.builtin.build s default = .ok e.checker := by
  have reached : Run .empty _ (World.empty.after threeComeIn) := .step rfl (.rest _)
  rcases merged : (World.empty.after threeComeIn).roster.merge builtin mixedList true with ⟨r, n⟩
  obtain ⟨-, entries, before, after, -⟩ := merge_as_wanted Checker.Registry.steady_builtin reached
    (List.forall_mem_singleton.mpr rfl) (by simp [mixedList]) merged
  have counts : ((World.empty.after threeComeIn).roster.merge builtin mixedList true).2 =
      ⟨1, 1, 1, 1, 1⟩ := by decide +kernel
  have moved : (Roster.entry? (World.empty.after threeComeIn).roster 2).any (fun o =>
      (Roster.entry? ((World.empty.after threeComeIn).roster.merge builtin mixedList true).1 2).any
        fun e =>
        o.checker ≠ e.checker) = true := by decide +kernel
  rw [merged] at counts moved
  obtain rfl : n = ⟨1, 1, 1, 1, 1⟩ := counts
  obtain ⟨o, held, moved⟩ := (Option.any_eq_true _ _).mp moved
  obtain ⟨e, found, other⟩ := (Option.any_eq_true _ _).mp moved
  obtain ⟨s, wanted, -, -, built, shares, -⟩ := entries 2 e found
  exact ⟨_, _, r, _, o, e, s, reached, merged, rfl, before, after, held, found,
    of_decide_eq_true other,
    (shares o held).1, wanted, built⟩

end Roster

end Vigil
