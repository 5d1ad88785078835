import Vigil.Proofs.Watch.Run
import Vigil.Proofs.Watch.Times

/-!
One round, from the fetch with which it begins to its end. Others may take any steps in between.

Main statements: `Watch.Run.spaced_of_fetching`, the services are merged, they are sent one pause
after another, each of them once, and the round ends at the next multiple of the interval;
`Watch.waits_of_inRound`, until then the leader waits for nothing but the clock;
`Watch.finishes_of_fetching`, and it can come to the end.
-/

namespace Vigil

open Vigil.Clock

namespace Watch

variable {w w' : Watch} {n : Nat}

/-! ### What the leader waits for -/

/-- After the last service has been sent, the leader waits for the next multiple of the interval. -/
theorem wait_eq (interval : w.policy.interval = .ofMillis n) (pos : 0 < n) (day : n ≤ 86400000)
    (goal : Goal) {began : Nat} (past : began ≤ w.now) :
    w.wait goal began =
    { w with leader := .waiting goal (began + Round.next n (w.now - began)) } := by
  have later := Round.lt_next pos (w.now - began)
  have millis (k : Nat) : Duration.millisUp ⟨k * Duration.millisecond⟩ = k := by
    have fraction : Duration.millisecond - 1 < Duration.millisecond := by decide
    rw [Duration.millisUp, Nat.mul_comm, Nat.mul_add_div (by decide), Nat.div_eq_of_lt fraction,
      Nat.add_zero]
  rw [wait, interval, elapsed, Round.rest_ofMillis pos day, millis]
  congr 2
  omega

/-! ### Steps of a round -/

section Steps

variable {acts : List Act} {goal : Goal} {began due : Nat}

/-- The end of a round tells whether another one may follow. -/
theorem rounded_mem_endRound (w : Watch) (goal : Goal) (more : Bool) :
    .rounded more ∈ (w.endRound goal more).2 := by
  cases goal with
  | run =>
      cases more with
      | true => exact List.mem_cons_self
      | false => exact List.mem_cons_self
  | refresh | round | terminate | close => exact List.mem_cons_self

theorem eq_of_rounded_mem_endRound {more more' : Bool}
    (told : .rounded more' ∈ (w.endRound goal more).2) : more' = more := by
  cases goal with
  | run =>
      cases more with
      | true => simpa [endRound, fetch] using told
      | false => simpa [endRound] using told
  | refresh | round | terminate | close => simpa [endRound] using told

/-- At the end of a round the leader is cancelled, or it is time. -/
theorem lead_waiting (leader : w.leader = .waiting goal due) (early : w.OnTime)
    (lead : Lead w w' acts) :
    acts = (w.endRound goal false).2 ∨
      w.now = due ∧ w' = (w.endRound goal true).1 ∧ acts = (w.endRound goal true).2 := by
  cases lead with
  | stopsWaiting here =>
      cases leader.symm.trans here
      exact .inl rfl
  | ends here come =>
      cases leader.symm.trans here
      exact .inr ⟨early.now_eq (by rw [due?, leader]) come, rfl, rfl⟩
  | awakes here | refreshes here | merges here | stopsFetching here | sends here | hasSent here
  | stopsSending here | drains here | aborts here | hasAborted here | hasRecorded here
  | dismisses here | stops here => cases leader.symm.trans here

/-- Between two services the leader is cancelled, or it sends the next one when it is time. -/
theorem lead_pacing {pause : Duration} {m : Monitored} {rest : List Monitored}
    (leader : w.leader = .pacing goal began (m :: rest) pause due) (early : w.OnTime)
    (lead : Lead w w' acts) :
    acts = (w.endRound goal false).2 ∨
      w.now = due ∧ w' = (w.send goal began pause m rest).1 ∧
        acts = (w.send goal began pause m rest).2 := by
  cases lead with
  | stopsSending here =>
      cases leader.symm.trans here
      exact .inl rfl
  | sends here come =>
      cases leader.symm.trans here
      exact .inr ⟨early.now_eq (by rw [due?, leader]) come, rfl, rfl⟩
  | awakes here | refreshes here | merges here | stopsFetching here | hasSent here | ends here
  | stopsWaiting here | drains here | aborts here | hasAborted here | hasRecorded here
  | dismisses here | stops here => cases leader.symm.trans here

/-- After the services have been fetched and merged, the leader is cancelled, or it begins to send
them. -/
theorem lead_fetching (rounds : goal ≠ .refresh) (leader : w.leader = .fetching goal began due)
    (early : w.OnTime) (lead : Lead w w' acts) :
    acts = w.refresh.2 ++ (w.refresh.1.endRound goal false).2 ∨
      w.now = due ∧ w' = (w.refresh.1.dispatch goal began).1 ∧
        acts = w.refresh.2 ++ (w.refresh.1.dispatch goal began).2 := by
  cases lead with
  | stopsFetching here =>
      cases leader.symm.trans here
      exact .inl rfl
  | merges here _ come =>
      cases leader.symm.trans here
      exact .inr ⟨early.now_eq (by rw [due?, leader]) come, rfl, rfl⟩
  | refreshes here =>
      cases leader.symm.trans here
      exact absurd rfl rounds
  | awakes here | sends here | hasSent here | stopsSending here | ends here | stopsWaiting here
  | drains here | aborts here | hasAborted here | hasRecorded here | dismisses here | stops here =>
      cases leader.symm.trans here

/-- All services are sent in some order, if there is any. -/
theorem dispatch_cases (w : Watch) (goal : Goal) (began : Nat) :
    w.roster.list = [] ∧ w.dispatch goal began = (w.wait goal began, []) ∨
      ∃ pause m rest, (m :: rest).Perm w.roster.list ∧
        w.dispatch goal began = w.send goal began pause m rest := by
  have perm := w.shuffle.perm w.now w.roster.list
  unfold dispatch
  cases order : w.shuffle.order w.now w.roster.list with
  | nil =>
      rw [order] at perm
      exact .inl ⟨List.nil_perm.mp perm, rfl⟩
  | cons m rest =>
      rw [order] at perm
      exact .inr ⟨_, m, rest, perm, rfl⟩

theorem roster_dispatch (w : Watch) (goal : Goal) (began : Nat) :
    (w.dispatch goal began).1.roster = w.roster := by
  rcases dispatch_cases w goal began with ⟨-, same⟩ | ⟨pause, m, rest, -, same⟩
  · rw [same]
    rfl
  · rw [same]
    cases rest <;> rfl

end Steps

/-! ### From the beginning of a round to its end -/

/-- Whether an act begins a round, or ends one. -/
def Act.isEdge : Act → Bool
  | .fetched _ | .rounded _ => true
  | _ => false

/-- Whether an act begins a round or a refresh. -/
def Act.isFetched : Act → Bool
  | .fetched _ => true
  | _ => false

/-- Nothing happens that begins or ends a round. -/
def Within (inside : List Moment) : Prop := ∀ m ∈ inside, ∀ act ∈ m.acts, act.isEdge = false

instance (inside : List Moment) : Decidable (Within inside) :=
  inferInstanceAs (Decidable (∀ m ∈ inside, ∀ act ∈ m.acts, act.isEdge = false))

theorem Within.not_rounded {inside : List Moment} {m : Moment} (within : Within inside)
    (mem : m ∈ inside) (more : Bool) : .rounded more ∉ m.acts := by
  intro told
  cases within m mem _ told

/-- Whether a round begins, and not only a refresh. -/
def Moment.begins (m : Moment) : Bool :=
  match m.after.leader with
  | .fetching goal _ _ => goal ≠ .refresh && m.acts.any Act.isFetched
  | _ => false

/-- Whether a round ends that has not been cancelled. -/
def Moment.ends (m : Moment) : Bool := m.acts.contains (.rounded true)

/-- When the last of some services was sent, or a time if none was. -/
def lastSent (t : Nat) : List Moment → Nat
  | [] => t
  | m :: past => lastSent (if (m.acts.filterMap Act.sent?).isEmpty then t else m.before.now) past

/-- The services that are sent to the pool, each with the time at which it is sent. -/
def sentAt (past : List Moment) : List (Nat × Monitored) :=
  past.flatMap fun m => (m.acts.filterMap Act.sent?).map (m.before.now, ·)

@[simp] theorem sentAt_cons (m : Moment) (past : List Moment) :
    sentAt (m :: past) = (m.acts.filterMap Act.sent?).map (m.before.now, ·) ++ sentAt past := rfl

@[simp] theorem sentAt_append (past later : List Moment) :
    sentAt (past ++ later) = sentAt past ++ sentAt later := List.flatMap_append

theorem map_snd_sentAt (past : List Moment) : (sentAt past).map Prod.snd = sentIn past := by
  induction past with
  | nil => rfl
  | cons m past ih => simp [ih, Function.comp_def]

theorem sentAt_of_none {past : List Moment} (none : sentIn past = []) : sentAt past = [] := by
  rw [← List.map_eq_nil_iff, map_snd_sentAt, none]

/-- Services at equal distances in time, the first one at a time. -/
def spaced (gap : Nat) : Nat → List Monitored → List (Nat × Monitored)
  | _, [] => []
  | due, m :: rest => (due, m) :: spaced gap (due + gap) rest

theorem map_snd_spaced (gap due : Nat) (l : List Monitored) :
    (spaced gap due l).map Prod.snd = l := by
  induction l generalizing due with
  | nil => rfl
  | cons m rest ih => rw [spaced, List.map_cons, ih]

/-- The last time is that of the last service on the list. -/
theorem lastSent_eq (t : Nat) (past : List Moment) :
    lastSent t past = (((sentAt past).map Prod.fst).getLast?).getD t := by
  induction past generalizing t with
  | nil => rfl
  | cons m past ih =>
      rw [lastSent, ih, sentAt_cons, List.map_append, List.getLast?_append]
      cases sent : m.acts.filterMap Act.sent? with
      | nil => simp
      | cons job jobs =>
          have here : (((job :: jobs).map (m.before.now, ·)).map Prod.fst).getLast? =
            some m.before.now := by
            rw [List.map_map]
            change ((job :: jobs).map fun _ => m.before.now).getLast? = _
            rw [List.map_const', List.getLast?_replicate]
            rfl
          rw [here]
          cases ((sentAt past).map Prod.fst).getLast? <;> rfl

theorem map_fst_spaced (gap due : Nat) (l : List Monitored) :
    (spaced gap due l).map Prod.fst = (List.range l.length).map (due + · * gap) := by
  induction l generalizing due with
  | nil => rfl
  | cons m rest ih =>
      rw [spaced, List.map_cons, ih, List.length_cons, List.range_succ_eq_map, List.map_cons,
        List.map_map]
      simp [Function.comp_def, Nat.succ_mul, Nat.add_assoc, Nat.add_comm, Nat.add_left_comm]

/-- The last of the services is sent after as many pauses as there are services before it. -/
theorem getLast?_spaced (gap due : Nat) (l : List Monitored) :
    (((spaced gap due l).map Prod.fst).getLast?).getD due = due + (l.length - 1) * gap := by
  rw [map_fst_spaced, List.getLast?_map, List.getLast?_range]
  cases l with
  | nil => simp
  | cons => rfl

section Beginnings

variable {d : Deed} {acts : List Act} {goal : Goal} {began : Nat}

theorem of_fetched_mem_endRound {more full : Bool}
    (told : .fetched full ∈ (w.endRound goal more).2) :
    goal = .run ∧ more = true := by
  cases goal with
  | run =>
      cases more with
      | true => exact ⟨rfl, rfl⟩
      | false => simp [endRound] at told
  | refresh | round | terminate | close => simp [endRound] at told

/-- No round begins or ends as the services begin to be sent. -/
theorem isEdge_of_mem_dispatch {act : Act} (told : act ∈ (w.dispatch goal began).2) :
    act.isEdge = false := by
  rcases dispatch_cases w goal began with ⟨-, same⟩ | ⟨pause, m, rest, -, same⟩
  · rw [same] at told
    cases told
  · rw [same] at told
    cases List.mem_singleton.mp told
    rfl

/-- The leader begins to fetch when it is called, or at the end of a round. -/
theorem fetching_of_act? {full : Bool} (done : w.act? d = some (w', acts))
    (fetched : .fetched full ∈ acts) :
    ∃ goal, w'.leader = .fetching goal w.now (w.now + w.stage.fetchDelays.headD 0) ∧
    w'.now = w.now ∧
      (d = .call goal ∨ goal = .run) := by
  rcases act_cases done with aside | ⟨goal, rfl, -, rfl, rfl⟩ | lead
  · cases aside.acts _ fetched
  · cases goal with
    | refresh | round | run => exact ⟨_, rfl, rfl, .inl rfl⟩
    | terminate | close => cases fetched
  · cases lead with
    | awakes | hasSent | drains | aborts | hasAborted | hasRecorded | dismisses => cases fetched
    | refreshes | sends | stops => cases List.mem_singleton.mp fetched
    | merges =>
        rcases List.mem_append.mp fetched with fetched | fetched
        · cases List.mem_singleton.mp fetched
        · cases isEdge_of_mem_dispatch fetched
    | stopsFetching =>
        rcases List.mem_append.mp fetched with fetched | fetched
        · cases List.mem_singleton.mp fetched
        · cases (of_fetched_mem_endRound fetched).2
    | stopsSending | stopsWaiting => cases (of_fetched_mem_endRound fetched).2
    | ends =>
        obtain ⟨rfl, -⟩ := of_fetched_mem_endRound fetched
        exact ⟨.run, rfl, rfl, .inr rfl⟩

/-- A round begins with a fetch, at the moment at which it begins. -/
theorem fetching_of_begins {m : Moment} (done : m.before.act? m.deed = some (m.after, m.acts))
    (begins : m.begins = true) :
    ∃ goal, goal ≠ .refresh ∧ m.after.now = m.before.now ∧
      m.after.leader =
        .fetching goal m.before.now (m.before.now + m.before.stage.fetchDelays.headD 0) := by
  unfold Moment.begins at begins
  split at begins
  · rename_i goal began due leader
    simp only [Bool.and_eq_true, List.any_eq_true, decide_eq_true_eq] at begins
    obtain ⟨rounds, act, mem, here⟩ := begins
    cases act with
    | fetched full =>
        obtain ⟨goal', leader', now, -⟩ := fetching_of_act? done mem
        rw [leader] at leader'
        cases leader'
        exact ⟨goal, rounds, now, leader⟩
    | _ => cases here
  · cases begins

end Beginnings

section Rounds

variable {goal : Goal} {began due t : Nat} {inside : List Moment} {last : Moment}

/-- While the leader waits for the end of a round, no service is sent. -/
theorem Run.ends_of_waiting (run : Run w (inside ++ [last]) w') (early : w.OnTime)
    (leader : w.leader = .waiting goal due) (within : Within inside)
    (ends : .rounded true ∈ last.acts) : sentIn inside = [] ∧ last.before.now = due := by
  obtain ⟨calm, m, none, waited, moves, place⟩ :=
    run.leader_moves early (by simp [leader]) ⟨_, ends, rfl⟩
  have outcome := lead_waiting (waited.leader.trans leader) waited.onTime moves
  rcases place with ⟨rfl, rfl⟩ | ⟨later, rfl, -⟩
  · rcases outcome with acts | ⟨now, -⟩
    · rw [acts] at ends
      cases eq_of_rounded_mem_endRound ends
    · exact ⟨none, now⟩
  · have mem : m ∈ calm ++ m :: later := by simp
    rcases outcome with acts | ⟨-, -, acts⟩
    · exact absurd (acts ▸ rounded_mem_endRound _ _ _) (within.not_rounded mem false)
    · exact absurd (acts ▸ rounded_mem_endRound _ _ _) (within.not_rounded mem true)

/-- After a service has been sent, the rest of the services is sent, one pause after another, and
the round ends at the next multiple of the interval. -/
theorem Run.spaced_of_send (interval : w.policy.interval = .ofMillis n) (pos : 0 < n)
    (day : n ≤ 86400000) {pause : Duration} {m : Monitored} {rest : List Monitored}
    (run : Run (w.send goal began pause m rest).1 (inside ++ [last]) w') (early : w.OnTime)
    (past : began ≤ w.now) (within : Within inside) (ends : .rounded true ∈ last.acts) :
    sentAt inside = spaced pause.millisUp (w.now + pause.millisUp) rest ∧
      last.before.now =
        began + Round.next n (w.now + rest.length * pause.millisUp - began) := by
  induction rest generalizing w m inside with
  | nil =>
      have early := (keeps_send w goal began pause m []).onTime early
      have waits := wait_eq (w := { w with pool := w.pool.enqueue m }) interval pos day goal past
      obtain ⟨none, now⟩ := run.ends_of_waiting early (congrArg Watch.leader waits) within ends
      refine ⟨sentAt_of_none none, ?_⟩
      rw [List.length_nil, Nat.zero_mul, Nat.add_zero]
      exact now
  | cons m' rest ih =>
      have early := (keeps_send w goal began pause m (m' :: rest)).onTime early
      obtain ⟨calm, x, none, waited, moves, place⟩ :=
        run.leader_moves early (by simp [send]) ⟨_, ends, rfl⟩
      have outcome := lead_pacing (waited.leader.trans rfl) waited.onTime moves
      rcases place with ⟨rfl, rfl⟩ | ⟨later, rfl, onward⟩
      · rcases outcome with acts | ⟨-, -, acts⟩
        · rw [acts] at ends
          cases eq_of_rounded_mem_endRound ends
        · rw [acts] at ends
          cases List.mem_singleton.mp ends
      · rcases outcome with acts | ⟨now, after, acts⟩
        · have mem : x ∈ calm ++ x :: later := by simp
          exact absurd (acts ▸ rounded_mem_endRound _ _ _) (within.not_rounded mem false)
        · have sent : x.acts.filterMap Act.sent? = [m'] := by
            rw [acts]
            rfl
          rw [after] at onward
          obtain ⟨all, ended⟩ := ih (congrArg Policy.interval waited.policy ▸ interval) onward
            waited.onTime (Nat.le_trans past waited.later) fun m mem => within m (by simp [mem])
          rw [now] at all ended
          refine ⟨?_, ?_⟩
          · rw [sentAt_append, sentAt_of_none none, sentAt_cons, sent, now, all]
            rfl
          · rw [ended, List.length_cons, Nat.succ_mul, Nat.add_comm (rest.length * _),
              ← Nat.add_assoc]

/-- Once the services are in the roster, they are sent in some order, one pause after another. -/
theorem Run.spaced_of_dispatch (interval : w.policy.interval = .ofMillis n) (pos : 0 < n)
    (day : n ≤ 86400000) (run : Run (w.dispatch goal began).1 (inside ++ [last]) w')
    (early : w.OnTime)
    (past : began ≤ w.now) (within : Within inside) (ends : .rounded true ∈ last.acts) :
    ∃ (order : List Monitored) (pause : Duration), order.Perm w.roster.list ∧
      pause = ⟨Round.pause w.policy.interval.nanos (w.elapsed began) order.length⟩ ∧
      ((w.dispatch goal began).2.filterMap Act.sent?).map (w.now, ·) ++ sentAt inside =
        spaced pause.millisUp w.now order ∧
      last.before.now =
        began + Round.next n (w.now + (order.length - 1) * pause.millisUp - began) := by
  refine ⟨w.shuffle.order w.now w.roster.list, _, w.shuffle.perm w.now w.roster.list, rfl, ?_⟩
  unfold dispatch at run ⊢
  cases order : w.shuffle.order w.now w.roster.list with
  | nil =>
      rw [order] at run
      have waits := congrArg Watch.leader (wait_eq interval pos day goal past)
      obtain ⟨none, now⟩ :=
        run.ends_of_waiting ((keeps_wait w goal began).onTime early) waits within ends
      refine ⟨sentAt_of_none none, ?_⟩
      rw [List.length_nil, Nat.zero_sub, Nat.zero_mul, Nat.add_zero]
      exact now
  | cons m rest =>
      rw [order] at run
      obtain ⟨all, now⟩ := run.spaced_of_send interval pos day early past within ends
      rw [List.length_cons, Nat.add_sub_cancel]
      exact ⟨congrArg ((w.now, m) :: ·) all, now⟩

/-- When the services have been fetched, they are merged into the roster, and then they are sent in
some order, one pause after another. -/
theorem Run.spaced_of_fetching (interval : w.policy.interval = .ofMillis n) (pos : 0 < n)
    (day : n ≤ 86400000) (rounds : goal ≠ .refresh) (run : Run w (inside ++ [last]) w')
    (early : w.OnTime) (past : began ≤ w.now) (leader : w.leader = .fetching goal began due)
    (within : Within inside) (ends : .rounded true ∈ last.acts) :
    ∃ before m after, inside = before ++ m :: after ∧ sentIn before = [] ∧ m.before.now = due ∧
      m.after.roster = (m.before.roster.merge w.policy.build m.before.stage.services
        m.before.stage.reachable).1 ∧
      ∃ (order : List Monitored) (pause : Duration), order.Perm m.after.roster.list ∧
        pause = ⟨Round.pause w.policy.interval.nanos ((due - began) * Duration.millisecond)
          order.length⟩ ∧
        sentAt (m :: after) = spaced pause.millisUp due order ∧
        last.before.now =
          began + Round.next n (due + (order.length - 1) * pause.millisUp - began) := by
  obtain ⟨calm, x, none, waited, moves, place⟩ :=
    run.leader_moves early (by simp [leader]) ⟨_, ends, rfl⟩
  have outcome := lead_fetching rounds (waited.leader.trans leader) waited.onTime moves
  rcases place with ⟨rfl, rfl⟩ | ⟨later, rfl, onward⟩
  · -- The first step of the leader is not the end of the round.
    rcases outcome with acts | ⟨-, -, acts⟩
    · rw [acts] at ends
      rcases List.mem_append.mp ends with ends | ends
      · cases List.mem_singleton.mp ends
      · cases eq_of_rounded_mem_endRound ends
    · rw [acts] at ends
      rcases List.mem_append.mp ends with ends | ends
      · cases List.mem_singleton.mp ends
      · cases isEdge_of_mem_dispatch ends
  · rcases outcome with acts | ⟨now, after, acts⟩
    · have mem : x ∈ calm ++ x :: later := by simp
      refine absurd ?_ (within.not_rounded mem false)
      rw [acts]
      exact List.mem_append_right _ (rounded_mem_endRound _ _ _)
    · have policy : x.before.refresh.1.policy = w.policy := waited.policy
      have now : x.before.refresh.1.now = due := now
      have began_le : began ≤ x.before.refresh.1.now := Nat.le_trans past waited.later
      have early : x.before.refresh.1.OnTime := (keeps_refresh x.before).onTime waited.onTime
      have roster : x.after.roster = x.before.refresh.1.roster := by rw [after, roster_dispatch]
      rw [after] at onward
      obtain ⟨order, pause, perm, spacing, all, ended⟩ :=
        onward.spaced_of_dispatch (policy ▸ interval)
        pos day early began_le (fun m mem => within m (by simp [mem])) ends
      rw [elapsed, policy, now] at spacing
      rw [now] at all ended
      refine ⟨calm, x, later, rfl, none, now, ?_, order, pause, roster ▸ perm, spacing, ?_, ended⟩
      · rw [roster, ← waited.policy]
        rfl
      · have sent : x.acts.filterMap Act.sent? =
            (x.before.refresh.1.dispatch goal began).2.filterMap Act.sent? := by
          rw [acts, List.filterMap_append]
          rfl
        rw [sentAt_cons, sent]
        change List.map (x.before.refresh.1.now, ·) _ ++ _ = _
        rw [now, all]

/-- When the services have been fetched, they are merged into the roster, and then each of them is
sent once. -/
theorem Run.ends_of_fetching (interval : w.policy.interval = .ofMillis n) (pos : 0 < n)
    (day : n ≤ 86400000) (rounds : goal ≠ .refresh) (run : Run w (inside ++ [last]) w')
    (early : w.OnTime) (past : began ≤ w.now) (leader : w.leader = .fetching goal began due)
    (within : Within inside) (ends : .rounded true ∈ last.acts) :
    ∃ before m after, inside = before ++ m :: after ∧ sentIn before = [] ∧ m.before.now = due ∧
      m.after.roster = (m.before.roster.merge w.policy.build m.before.stage.services
        m.before.stage.reachable).1 ∧
      (sentIn (m :: after)).Perm m.after.roster.list ∧
      m.before.now ≤ lastSent m.before.now (m :: after) ∧
      last.before.now =
        began + Round.next n (lastSent m.before.now (m :: after) - began) := by
  obtain ⟨before, m, after, cut, none, now, merged, order, pause, perm, -, all, ended⟩ :=
    run.spaced_of_fetching interval pos day rounds early past leader within ends
  have sent : sentIn (m :: after) = order := by rw [← map_snd_sentAt, all, map_snd_spaced]
  have later : lastSent due (m :: after) = due + (order.length - 1) * pause.millisUp := by
    rw [lastSent_eq, all, getLast?_spaced]
  refine ⟨before, m, after, cut, none, now, merged, sent ▸ perm, ?_, ?_⟩
  · rw [now, later]
    exact Nat.le_add_right ..
  · rw [now, later]
    exact ended

/-- A round is a run of its own, from the fetch with which it begins to its end. -/
theorem Run.round_of_begins {earlier later : List Moment} {first : Moment}
    (run : Run w (earlier ++ first :: (inside ++ last :: later)) w') (early : w.OnTime)
    (begins : first.begins = true) :
    Run first.after (inside ++ [last]) last.after ∧ first.after.policy = w.policy ∧
    first.after.OnTime ∧
      ∃ goal, goal ≠ .refresh ∧ first.after.now = first.before.now ∧
        first.after.leader = .fetching goal first.before.now
          (first.before.now + first.before.stage.fetchDelays.headD 0) := by
  obtain ⟨before, start, after⟩ := run.split
  obtain ⟨middle, finish, -⟩ := after.split
  obtain ⟨policy, -, early⟩ := (before.append (.step start (.rest _))).keeps early
  exact ⟨middle.append (.step finish (.rest _)), policy, early, fetching_of_begins start begins⟩

end Rounds

/-! ### Coming to an end -/

/-- Whether a deed is a step of the leader or one of the clock. -/
def Deed.isOwn : Deed → Bool
  | .move .leader | .tick _ => true
  | _ => false

/-- A round can go on to its end, and the leader needs nobody for that. -/
def Finishes (w : Watch) : Prop :=
  ∃ inside last w', Run w (inside ++ [last]) w' ∧ Within inside ∧ last.ends = true ∧
    ∀ m ∈ inside ++ [last], m.deed.isOwn = true

section Finishing

variable {past : List Moment} {goal : Goal} {began due : Nat}

theorem Finishes.of_run (run : Run w past w') (within : Within past)
    (own : ∀ m ∈ past, m.deed.isOwn = true) (finishes : Finishes w') : Finishes w := by
  obtain ⟨inside, last, u, more, within', ends, own'⟩ := finishes
  refine ⟨past ++ inside, last, u, ?_, ?_, ends, ?_⟩
  · rw [List.append_assoc]
    exact run.append more
  · exact List.forall_mem_append.mpr ⟨within, within'⟩
  · rw [List.append_assoc]
    exact List.forall_mem_append.mpr ⟨own, own'⟩

/-- The clock comes to the time for which the leader waits, and then the leader takes a step. -/
theorem exists_step {acts : List Act} (waits : w.due? .leader = some due) (early : w.OnTime)
    (patient : w.now < due → w.moveLeader = none)
    (moves : ({ w with now := due } : Watch).moveLeader = some (w', acts)) :
    ∃ inside, Run w (inside ++ [⟨{ w with now := due }, .move .leader, acts, w'⟩]) w' ∧
      Within inside ∧ ∀ m ∈ inside, m.deed.isOwn = true := by
  rcases Nat.lt_or_eq_of_le (early due waits) with before | here
  · have allowed : w.act? (.tick due) = some ({ w with now := due }, []) := by
      simp [act?, Nat.le_of_lt before, patient before, waits]
    refine ⟨[⟨w, .tick due, [], { w with now := due }⟩], ?_, ?_, ?_⟩
    · exact .step allowed (.step moves (.rest _))
    · simp [Within]
    · simp [Deed.isOwn]
  · subst here
    exact ⟨[], .step moves (.rest _), by simp [Within], by simp⟩

/-- The same for a step that does not end the round. -/
theorem Finishes.of_step {acts : List Act} (waits : w.due? .leader = some due) (early : w.OnTime)
    (patient : w.now < due → w.moveLeader = none)
    (moves : ({ w with now := due } : Watch).moveLeader = some (w', acts))
    (within : ∀ act ∈ acts, act.isEdge = false) (finishes : Finishes w') : Finishes w := by
  obtain ⟨inside, run, calm, own⟩ := exists_step waits early patient moves
  refine finishes.of_run run ?_ ?_
  · exact List.forall_mem_append.mpr ⟨calm, List.forall_mem_singleton.mpr within⟩
  · exact List.forall_mem_append.mpr ⟨own, List.forall_mem_singleton.mpr rfl⟩

/-- A leader that only waits for the end of the round needs the clock and nothing else. -/
theorem finishes_of_waiting (leader : w.leader = .waiting goal due) (early : w.OnTime)
    (going : w.cancelled = false) : Finishes w := by
  have waits : w.due? .leader = some due := by rw [due?, leader]
  have patient : w.now < due → w.moveLeader = none := by
    intro before
    simp [moveLeader, leader, going, before]
  have moves : ({ w with now := due } : Watch).moveLeader =
      some (({ w with now := due } : Watch).endRound goal true) := by
    simp [moveLeader, leader, going]
  obtain ⟨inside, run, calm, own⟩ := exists_step waits early patient moves
  refine ⟨inside, _, _, run, calm, ?_, ?_⟩
  · exact List.contains_iff_mem.mpr (rounded_mem_endRound _ goal true)
  · exact List.forall_mem_append.mpr ⟨own, List.forall_mem_singleton.mpr rfl⟩

/-- One that has services to send goes on to the next of them. -/
theorem finishes_of_pacing {pause : Duration} {m : Monitored} {rest : List Monitored}
    (leader : w.leader = .pacing goal began (m :: rest) pause due) (early : w.OnTime)
    (going : w.cancelled = false)
    (finishes : Finishes (({ w with now := due } : Watch).send goal began pause m rest).1) :
    Finishes w := by
  have waits : w.due? .leader = some due := by rw [due?, leader]
  have patient : w.now < due → w.moveLeader = none := by
    intro before
    simp [moveLeader, leader, going, before]
  have moves : ({ w with now := due } : Watch).moveLeader =
      some (({ w with now := due } : Watch).send goal began pause m rest) := by
    simp [moveLeader, leader, going]
  refine finishes.of_step waits early patient moves ?_
  exact List.forall_mem_singleton.mpr rfl

/-- After a service has been sent, the rest can be sent. -/
theorem finishes_of_send {pause : Duration} {m : Monitored} {rest : List Monitored}
    (going : w.cancelled = false) : Finishes (w.send goal began pause m rest).1 := by
  induction rest generalizing w m with
  | nil => exact finishes_of_waiting rfl (onTime_of_add _ rfl) going
  | cons m' rest ih => exact finishes_of_pacing rfl (onTime_of_add _ rfl) going (ih going)

theorem finishes_of_dispatch (going : w.cancelled = false) :
    Finishes (w.dispatch goal began).1 := by
  rcases dispatch_cases w goal began with ⟨-, same⟩ | ⟨pause, m, rest, -, same⟩
  · rw [same]
    exact finishes_of_waiting rfl (onTime_of_add _ rfl) going
  · rw [same]
    exact finishes_of_send going

/-- Once the services have been fetched, they can be merged and sent. -/
theorem moveLeader_of_fetching (rounds : goal ≠ .refresh)
    (leader : w.leader = .fetching goal began due) (come : due ≤ w.now)
    (going : w.cancelled = false) :
    w.moveLeader = some ((w.refresh.1.dispatch goal began).1,
      w.refresh.2 ++ (w.refresh.1.dispatch goal began).2) := by
  have going : w.refresh.1.cancelled = false := going
  simp [moveLeader, leader, Nat.not_lt.mpr come, going]

/-- From the fetch on, the leader gets to the end of the round by itself. -/
theorem finishes_of_fetching (rounds : goal ≠ .refresh)
    (leader : w.leader = .fetching goal began due)
    (early : w.OnTime) (going : w.cancelled = false) : Finishes w := by
  have waits : w.due? .leader = some due := by rw [due?, leader]
  have patient : w.now < due → w.moveLeader = none := by
    intro before
    simp [moveLeader, leader, before]
  have moves :=
    moveLeader_of_fetching (w := { w with now := due }) rounds leader (Nat.le_refl _) going
  refine .of_step waits early patient moves ?_ (finishes_of_dispatch going)
  refine List.forall_mem_append.mpr ⟨List.forall_mem_singleton.mpr rfl, ?_⟩
  rcases dispatch_cases ({ w with now := due } : Watch).refresh.1 goal began with
    ⟨-, same⟩ | ⟨pause, m, rest, -, same⟩
  · rw [same]
    exact List.forall_mem_nil _
  · rw [same]
    exact List.forall_mem_singleton.mpr rfl

/-! ### Whole runs -/

def Leader.inRound : Leader → Bool
  | .fetching goal _ _ => goal ≠ .refresh
  | .pacing .. | .waiting .. => true
  | _ => false

theorem inRound_wait : (w.wait goal began).leader.inRound = true := rfl

theorem inRound_send {pause : Duration} {m : Monitored} {rest : List Monitored} :
    (w.send goal began pause m rest).1.leader.inRound = true := by
  cases rest with
  | nil => rfl
  | cons => rfl

/-- As long as nothing begins or ends a round, the leader stays in the middle of it. -/
theorem inRound_of_act? {d : Deed} {acts : List Act} (done : w.act? d = some (w', acts))
    (within : ∀ act ∈ acts, act.isEdge = false) (inRound : w.leader.inRound = true) :
    w'.leader.inRound = true := by
  have going (u : Watch) (goal : Goal) (more : Bool) : ¬ (u.endRound goal more).2 ⊆ acts := by
    intro sub
    cases within _ (sub (rounded_mem_endRound u goal more))
  rcases act_cases done with aside | ⟨_, -, idle, -, -⟩ | lead
  · rw [aside.leader]
    exact inRound
  · rw [idle] at inRound
    cases inRound
  · cases lead with
    | awakes leader | refreshes leader | drains leader | aborts leader | hasAborted leader
    | hasRecorded leader | dismisses leader | stops leader =>
        rw [leader] at inRound
        cases inRound
    | @merges goal began _ leader =>
        rcases dispatch_cases w.refresh.1 goal began with ⟨-, same⟩ | ⟨pause, m, rest, -, same⟩
        · rw [same]
          exact inRound_wait
        · rw [same]
          exact inRound_send
    | stopsFetching => exact absurd (List.subset_append_right _ _) (going w.refresh.1 _ false)
    | sends => exact inRound_send
    | hasSent => exact inRound_wait
    | stopsSending | stopsWaiting => exact absurd (List.Subset.refl _) (going w _ false)
    | ends => exact absurd (List.Subset.refl _) (going w _ true)

theorem Run.inRound (run : Run w past w') (within : Within past)
    (inRound : w.leader.inRound = true) : w'.leader.inRound = true := by
  induction run with
  | rest => exact inRound
  | step done _ ih =>
      obtain ⟨here, more⟩ := List.forall_mem_cons.mp within
      exact ih more (inRound_of_act? done here inRound)

/-- In the middle of a round the leader waits for a moment, and goes on when it has come. -/
theorem waits_of_inRound (inRound : w.leader.inRound = true) (early : w.OnTime) :
    ∃ due, w.due? .leader = some due ∧ w.now ≤ due ∧ (w.now = due → (w.move .leader).isSome) := by
  have waits (due : Nat) (waits : w.due? .leader = some due)
      (goes : ¬ w.now < due → (w.move .leader).isSome) : ∃ due, w.due? .leader = some due ∧
      w.now ≤ due ∧ (w.now = due → (w.move .leader).isSome) :=
    ⟨due, waits, early due waits, fun here => goes (Nat.not_lt.mpr (Nat.le_of_eq here.symm))⟩
  cases leader : w.leader with
  | fetching goal began due =>
      refine waits due (by rw [due?, leader]) fun come => ?_
      simp only [move, moveLeader, leader, if_neg come]
      cases goal with
      | refresh => rfl
      | round | run | terminate | close =>
          dsimp only
          split <;> rfl
  | pacing goal began rest pause due =>
      refine waits due (by rw [due?, leader]) fun come => ?_
      simp only [move, moveLeader, leader, if_neg come]
      cases rest with
      | nil => split <;> rfl
      | cons => split <;> rfl
  | waiting goal due =>
      refine waits due (by rw [due?, leader]) fun come => ?_
      simp only [move, moveLeader, leader, if_neg come]
      split <;> rfl
  | idle | sleeping | draining | aborting | recording | closing =>
      rw [leader] at inRound
      cases inRound

end Finishing

end Watch

end Vigil
