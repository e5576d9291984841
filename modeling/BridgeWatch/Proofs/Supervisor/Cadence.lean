import BridgeWatch.Proofs.Observer.Cadence
import BridgeWatch.Proofs.Supervisor.InFlight
import Mathlib.Algebra.GroupWithZero.Nat
import Mathlib.Data.List.ModifyLast

/-!
# The cadence of an agent

The ticks of an agent as they are seen on the clock of its supervisor: one begins when the agent
leaves its sleep, and ends when it goes back to sleep (`Operation.Ticking`).

* `OnTime`: the ticks so far are those of a timetable, and an agent that sleeps wakes up as soon as
  its next tick is due.
* `Operation.exists_ticking`: ticks may take any times.
* `Operation.ticks_paced`: the ticks of an agent are serialized and never burst, whatever the remote
  ends do and however long they take, and none is left out.
-/

namespace BridgeWatch

/-! ## Ticks on the clock -/

/-- The ticks so far, after a step at a given time in which an agent went from one activity to
another. -/
def TickTime.noted (now : Nat) (ticks : List TickTime) :
    Option Activity → Option Activity → List TickTime
  | some (.sleeping deadline), some (.ticking ..) => ticks ++ [⟨deadline, now, none⟩]
  | some (.ticking ..), some (.sleeping _) => ticks.modifyLast ({ · with stop? := some now })
  | _, _ => ticks

namespace Operation

variable {σ : Type}

/-- What the agent at a place is doing. -/
def activity? (s : Operation σ) (i : Nat) : Option Activity :=
  s.supervisor.agents[i]?.map (·.activity)

/-- A supervisor at work has come from one state to another, and the agent at the place `i` has
made these ticks on the way. -/
inductive Ticking (chain : ChainId) (ends : Ends σ) (horizon i : Nat) (s₀ : Operation σ) :
    List TickTime → Operation σ → Prop
  | fresh : Ticking chain ends horizon i s₀ [] s₀
  | step {ticks : List TickTime} {s t : Operation σ}
      (before : Ticking chain ends horizon i s₀ ticks s) (step : Step chain ends horizon s t) :
      Ticking chain ends horizon i s₀
        (TickTime.noted s.now ticks (s.activity? i) (t.activity? i)) t

end Operation

/-- Nothing is noted of an agent that goes on with what it does. -/
theorem TickTime.noted_self (now : Nat) (ticks : List TickTime) (activity : Option Activity) :
    noted now ticks activity activity = ticks := by
  match activity with
  | none | some (.sleeping _) | some (.ticking ..) | some (.stopped _) => rfl

/-! ## What a step does to an agent -/

namespace Agent

variable {a : Agent} {delay : Request → Nat} {reply : (q : Request) → q.Reply} {s : Shared}
  {now deadline next arrival : Nat} {p : Phase}

/-- An agent that may not act is not due. -/
theorem isDue_of_mayAct {told : Bool} (idle : a.mayAct now told = false) : a.isDue now = false := by
  unfold mayAct at idle
  split at idle
  · rw [isDue, due?_of_not_alive idle]
    rfl
  · exact idle

/-- An agent that wakes up begins a tick, which waits for the ledger's record or for the head. -/
theorem activity_act_sleeping (ha : a.activity = .sleeping deadline)
    (timed : a.observer.pollInterval ≠ 0) (now : Nat) (delay : Request → Nat)
    (reply : (q : Request) → q.Reply) (s : Shared) :
    ∃ p, (p = .lookup ∨ ∃ watermark, p = .head watermark) ∧
      (a.act now delay reply s).1.activity =
        .ticking (Cadence.nextDeadline a.observer.pollInterval deadline now) p
          (now + delay (p.request a.observer)) := by
  simp only [act, ha, wake, if_neg timed]
  rw [Observer.startTick_eq]
  split
  · exact ⟨.lookup, .inl rfl, rfl⟩
  · exact ⟨.head _, .inr ⟨_, rfl⟩, rfl⟩

/-- An agent in a tick stays in it or goes to sleep until the next one. -/
theorem activity_act_ticking (ha : a.activity = .ticking next p arrival) :
    (∃ p' arrival', (a.act now delay reply s).1.activity = .ticking next p' arrival') ∨
      (a.act now delay reply s).1.activity = .sleeping next := by
  simp only [act, ha, resume]
  cases a.observer.resumeTick ⟨a.progress, s⟩ p (reply (p.request a.observer)) with
  | waiting q v => exact .inl ⟨_, _, rfl⟩
  | finished result v => exact .inr rfl

end Agent

/-! ## Agents on time -/

/-- An agent at a given time is where the timetable of its ticks so far says. -/
inductive OnTime (period horizon now : Nat) : List TickTime → Activity → Prop
  /-- The first tick is due at once. -/
  | unstarted (now_eq : now = 0) : OnTime period horizon now [] (.sleeping 0)
  /-- Behind a tick, the next one is due or it is not yet time; when the time is up, it is not. -/
  | asleep {ticks : List TickTime} {x : TickTime} {stop deadline : Nat}
      (timetable : IsTimetable period (ticks ++ [x])) (stop?_eq : x.stop? = some stop)
      (start_le : x.start ≤ stop)
      (deadline_eq : deadline = Cadence.nextDeadline period x.due x.start) (stop_le : stop ≤ now)
      (le : now ≤ max deadline stop) (early : now ≤ deadline ∨ now < horizon) :
      OnTime period horizon now (ticks ++ [x]) (.sleeping deadline)
  | inTick {ticks : List TickTime} {x : TickTime} {next arrival : Nat} {p : Phase}
      (timetable : IsTimetable period (ticks ++ [x])) (start_le : x.start ≤ now)
      (next_eq : next = Cadence.nextDeadline period x.due x.start) :
      OnTime period horizon now (ticks ++ [x]) (.ticking next p arrival)
  | ended {ticks : List TickTime} {how : AgentEnd} (timetable : IsTimetable period ticks) :
      OnTime period horizon now ticks (.stopped how)

namespace OnTime

variable {period horizon now now' deadline next arrival : Nat} {ticks : List TickTime}
  {activity : Activity} {p : Phase} {a b : Agent}

theorem isTimetable (h : OnTime period horizon now ticks activity) : IsTimetable period ticks := by
  cases h with
  | unstarted => exact isTimetable_nil period
  | asleep timetable | inTick timetable | ended timetable => exact timetable

/-- A tick that begins as soon as it is due is the next one of the timetable. -/
theorem begin (h : OnTime period horizon now ticks (.sleeping deadline)) (due : deadline ≤ now)
    (p : Phase) (arrival : Nat) : OnTime period horizon now (ticks ++ [⟨deadline, now, none⟩])
      (.ticking (Cadence.nextDeadline period deadline now) p arrival) := by
  cases h with
  | unstarted now_eq =>
    subst now_eq
    exact .inTick (isTimetable_singleton period none) (Nat.le_refl 0) rfl
  | @asleep ticks x stop _ timetable stop?_eq start_le deadline_eq stop_le le early =>
    refine .inTick (timetable.concat ⟨deadline_eq, stop, stop?_eq, start_le, ?_⟩) (Nat.le_refl _)
      rfl
    show now = max deadline stop
    omega

/-- The last tick ends. -/
theorem finish (h : OnTime period horizon now ticks (.ticking next p arrival))
    (lt : now < horizon) : OnTime period horizon now
      (ticks.modifyLast ({ · with stop? := some now })) (.sleeping next) := by
  cases h with
  | @inTick ticks x _ _ _ timetable start_le next_eq =>
    rw [List.modifyLast_concat]
    exact .asleep (timetable.stop (some now)) rfl start_le next_eq (Nat.le_refl _)
      (Nat.le_max_right ..) (.inr lt)

/-- The clock moves on, for no tick is due. -/
theorem wait (h : OnTime period horizon now ticks activity)
    (idle : ∀ deadline, activity = .sleeping deadline → now < deadline) :
    OnTime period horizon (now + 1) ticks activity := by
  cases h with
  | unstarted now_eq => cases Nat.not_lt_zero _ (idle 0 rfl)
  | asleep timetable stop?_eq start_le deadline_eq stop_le le early =>
    have hlt := idle _ rfl
    exact .asleep timetable stop?_eq start_le deadline_eq (by omega) (by omega) (.inl hlt)
  | inTick timetable start_le next_eq => exact .inTick timetable (by omega) next_eq
  | ended timetable => exact .ended timetable

/-- No tick is noted of an agent that ends. -/
theorem stop (h : OnTime period horizon now ticks activity) (ended : b.isAlive = false) :
    OnTime period horizon now (TickTime.noted now ticks (some activity) (some b.activity))
      b.activity := by
  obtain ⟨how, hb⟩ := Agent.isAlive_eq_false_iff.1 ended
  have hnoted : TickTime.noted now ticks (some activity) (some (.stopped how)) = ticks := by
    cases activity <;> rfl
  rw [hb, hnoted]
  exact .ended h.isTimetable

/-- **An agent on time stays on time**, whatever a step does to it. -/
theorem turn {told : Bool} (h : OnTime a.observer.pollInterval horizon now ticks a.activity)
    (timed : a.observer.pollInterval ≠ 0) (turn : a.Turn horizon now told now' b) :
    OnTime a.observer.pollInterval horizon now'
      (TickTime.noted now ticks (some a.activity) (some b.activity)) b.activity := by
  cases turn with
  | still => rwa [TickTime.noted_self]
  | stopped => exact h.stop a.isAlive_cancel
  | aborted => exact h.stop a.isAlive_abort
  | waited idle =>
    rw [TickTime.noted_self]
    refine h.wait fun deadline ha => ?_
    have hdue := Agent.isDue_of_mayAct idle
    rw [Agent.isDue, Agent.due?, ha] at hdue
    simpa using hdue
  | acted running delay reply s lt due =>
    cases ha : a.activity with
    | stopped =>
      rw [Agent.isDue, Agent.due?, ha] at due
      cases due
    | sleeping deadline =>
      obtain ⟨p, -, hact⟩ := Agent.activity_act_sleeping ha timed now delay reply s
      rw [Agent.isDue, Agent.due?, ha] at due
      rw [hact]
      rw [ha] at h
      exact h.begin (by simpa using due) p _
    | ticking next p arrival =>
      rw [ha] at h
      rcases Agent.activity_act_ticking ha with ⟨p', arrival', hact⟩ | hact
      · rw [hact]
        cases h with
        | inTick timetable start_le next_eq => exact .inTick timetable start_le next_eq
      · rw [hact]
        exact h.finish lt

end OnTime

/-! ## Ticks of any length -/

/-- An answer with which a tick ends that has just begun. -/
def Request.brief : (q : Request) → q.Reply
  | .recordedHeight _ => .ok 1
  | .head | .logs _ _ | .submit _ => .error default

/-- Remote ends that take the given times to answer, one for each request. -/
def Ends.pausing : Ends (List Nat) where
  accept _ _ ds := (ds.headD 0, ds.tail)
  answer _ q ds := (q.brief, ds)

theorem Agent.activity_act_brief {a : Agent} {next arrival : Nat} {p : Phase}
    (ha : a.activity = .ticking next p arrival)
    (first : p = .lookup ∨ ∃ watermark, p = .head watermark) (now : Nat) (delay : Request → Nat)
    (s : Shared) : (a.act now delay Request.brief s).1.activity = .sleeping next := by
  simp only [act, ha, resume]
  rcases first with rfl | ⟨watermark, rfl⟩ <;> rfl

namespace Operation

/-- A supervisor of one observer at work, with remote ends that have these times left to take. -/
structure Alone (o : Observer) (activity : Activity) (durations : List Nat) (now : Nat)
    (s : Operation (List Nat)) : Prop where
  agent : ∃ a, s.supervisor.agents = [a] ∧ a.observer = o ∧ a.activity = activity
  running : s.supervisor.cancelled = false
  orders : s.orders = []
  ends : s.ends = durations
  now : s.now = now

/-- A supervisor of one observer comes to this point, and has made these ticks on the way. -/
def Comes (o : Observer) (horizon : Nat) (s₀ : Operation (List Nat)) (ticks : List TickTime)
    (activity : Activity) (durations : List Nat) (now : Nat) : Prop :=
  ∃ s, Ticking o.chain .pausing horizon 0 s₀ ticks s ∧ s.Alone o activity durations now

variable {o : Observer} {horizon : Nat} {s₀ : Operation (List Nat)} {ticks : List TickTime}
  {activity : Activity} {ds : List Nat} {d now deadline next : Nat} {p : Phase}

/-- The clock moves on while the agent is not due. -/
theorem Comes.wait (h : Comes o horizon s₀ ticks activity ds now) {time due : Nat}
    (hdue : ∀ a : Agent, a.activity = activity → a.due? = some due) (le : now ≤ time)
    (le_due : time ≤ max due now) (le_horizon : time ≤ horizon) :
    Comes o horizon s₀ ticks activity ds time := by
  obtain ⟨n, rfl⟩ := Nat.exists_eq_add_of_le le
  induction n with
  | zero => exact h
  | succ n ih =>
    obtain ⟨s, hs, ⟨a, agents, hobserver, ha⟩, running, orders, hends, hnow⟩ :=
      ih (by omega) (by omega) (by omega)
    have pass : s.MayPass horizon :=
      mayPass_of_orders_nil (by omega) (Supervisor.isSettled_of_running running) orders
    have step : Step o.chain .pausing horizon s { s with now := s.now + 1 } := by
      refine .clock pass fun b hb => ?_
      obtain rfl : b = a := by simpa [agents] using hb
      rw [Agent.mayAct, running, if_neg Bool.false_ne_true, Agent.isDue, hdue b ha]
      simp
      omega
    have after := hs.step step
    rw [show activity? { s with now := s.now + 1 } 0 = s.activity? 0 from rfl,
      TickTime.noted_self] at after
    exact ⟨_, after, ⟨a, agents, hobserver, ha⟩, running, orders, hends, by rw [hnow]; rfl⟩

/-- The agent acts. -/
theorem Comes.act (h : Comes o horizon s₀ ticks activity ds now)
    (due : ∀ a : Agent, a.activity = activity → a.isDue now = true) (lt : now < horizon) :
    ∃ (a : Agent) (s : Shared), a.observer = o ∧ a.activity = activity ∧
      let b := (a.act now (fun _ => ds.headD 0) Request.brief s).1
      Comes o horizon s₀ (TickTime.noted now ticks (some activity) (some b.activity)) b.activity
        (Ends.pausing.accepted now b.pending? ds) now := by
  obtain ⟨s, hs, ⟨a, agents, rfl, rfl⟩, running, orders, rfl, rfl⟩ := h
  have step : Step a.observer.chain .pausing horizon s
      (s.acted a.observer.chain .pausing [] a [] (fun _ => s.ends.headD 0) Request.brief) := by
    have pass := mayPass_of_orders_nil lt (Supervisor.isSettled_of_running running) orders
    refine .act _ _ pass running agents (due a rfl) fun _ => ⟨?_, ?_⟩
    · exact fun q _ => .refl _
    · intro q
      cases a.pending? <;> rfl
  have after := hs.step step
  rw [activity?, agents] at after
  refine ⟨a, s.supervisor.shared, rfl, rfl, _, after,
    ⟨(a.act s.now (fun _ => s.ends.headD 0) Request.brief s.supervisor.shared).1, rfl,
      a.observer_act .., rfl⟩, running, orders, ?_, rfl⟩
  show (if a.observer.chain = a.observer.chain then _ else _) = _
  rw [if_pos rfl]
  congr 1
  cases a.pending? <;> rfl

/-- A tick begins, and waits for the next of the given times. -/
theorem Comes.begin (h : Comes o horizon s₀ ticks (.sleeping deadline) (d :: ds) now)
    (timed : o.pollInterval ≠ 0) (due : deadline ≤ now) (lt : now < horizon) :
    ∃ p, (p = .lookup ∨ ∃ watermark, p = .head watermark) ∧
      Comes o horizon s₀ (ticks ++ [⟨deadline, now, none⟩])
        (.ticking (Cadence.nextDeadline o.pollInterval deadline now) p (now + d)) ds now := by
  obtain ⟨a, s, rfl, ha, hcomes⟩ := h.act (fun a ha => by simpa [Agent.isDue, Agent.due?, ha]) lt
  obtain ⟨p, first, hb⟩ := Agent.activity_act_sleeping ha timed now
    (fun _ => (d :: ds).headD 0) Request.brief s
  refine ⟨p, first, ?_⟩
  simp only [Agent.pending?, hb] at hcomes
  exact hcomes

/-- A tick ends in its first phase. -/
theorem Comes.finish (h : Comes o horizon s₀ ticks (.ticking next p now) ds now)
    (first : p = .lookup ∨ ∃ watermark, p = .head watermark) (lt : now < horizon) :
    Comes o horizon s₀ (ticks.modifyLast ({ · with stop? := some now })) (.sleeping next) ds
      now := by
  obtain ⟨a, s, rfl, ha, hcomes⟩ := h.act (fun a ha => by simp [Agent.isDue, Agent.due?, ha]) lt
  have hb := Agent.activity_act_brief ha first now (fun _ => ds.headD 0) s
  simp only [Agent.pending?, hb] at hcomes
  exact hcomes

/-- One more tick, which takes the next of the given times. -/
theorem Comes.tick (h : Comes o horizon s₀ ticks (.sleeping deadline) (d :: ds) now)
    (timed : o.pollInterval ≠ 0) {start : Nat} (hstart : start = max deadline now)
    (lt : start + d < horizon) :
    Comes o horizon s₀ (ticks ++ [⟨deadline, start, some (start + d)⟩])
      (.sleeping (Cadence.nextDeadline o.pollInterval deadline start)) ds (start + d) := by
  have hready := h.wait (fun a ha => by rw [Agent.due?, ha]) (show now ≤ start by omega)
    (by omega) (by omega)
  obtain ⟨p, first, hbegun⟩ := hready.begin timed (by omega) (by omega)
  have hanswered := hbegun.wait (fun a ha => by rw [Agent.due?, ha]) (Nat.le_add_right start d)
    (Nat.le_max_left ..) (by omega)
  have hfinished := hanswered.finish first lt
  rwa [List.modifyLast_concat] at hfinished

/-- More ticks, which take all of the given times, for there is time enough. -/
theorem Comes.tickAll (h : Comes o horizon s₀ ticks (.sleeping deadline) ds now)
    (timed : o.pollInterval ≠ 0)
    (lt : max deadline now + (ds.map (· + o.pollInterval)).sum < horizon) :
    ∃ more deadline' now', more.map TickTime.duration = ds ∧
      Comes o horizon s₀ (ticks ++ more) (.sleeping deadline') [] now' := by
  induction ds generalizing ticks deadline now with
  | nil => exact ⟨[], deadline, now, rfl, by rwa [List.append_nil]⟩
  | cons d ds ih =>
    generalize hstart : max deadline now = start at lt
    rw [List.map_cons, List.sum_cons] at lt
    have hnext : Cadence.nextDeadline o.pollInterval deadline start ≤ start + o.pollInterval := by
      rw [Cadence.nextDeadline]
      split <;> omega
    obtain ⟨more, deadline', now', hmore, hcomes⟩ :=
      ih (h.tick timed hstart.symm (by omega)) (by omega)
    refine ⟨⟨deadline, start, some (start + d)⟩ :: more, deadline', now', ?_, ?_⟩
    · rw [List.map_cons, hmore, TickTime.duration, Option.getD_some, Nat.add_sub_cancel_left]
    · rwa [List.append_assoc, List.singleton_append] at hcomes

/-- Ticks may take any times. -/
theorem exists_ticking (o : Observer) (timed : o.pollInterval ≠ 0) (timeout : Nat)
    (durations : List Nat) :
    ∃ horizon ticks s,
      Ticking o.chain .pausing horizon 0 (start timeout [o] durations []) ticks s ∧
        ticks.map TickTime.duration = durations := by
  have first : Comes o ((durations.map (· + o.pollInterval)).sum + 1)
      (start timeout [o] durations []) [] (.sleeping 0) durations 0 :=
    ⟨_, .fresh, ⟨Agent.spawn o 0, rfl, rfl, rfl⟩, rfl, rfl, rfl, rfl⟩
  obtain ⟨ticks, deadline, now, hticks, s, hs, -⟩ := first.tickAll timed (by omega)
  exact ⟨_, ticks, s, hs, hticks⟩

end Operation

/-! ## Pace -/

namespace Operation

open TickTime (Follows)

variable {σ : Type} {chain : ChainId} {ends : Ends σ} {horizon i : Nat} {s s₀ : Operation σ}
  {ticks : List TickTime} {timeout : Nat} {observers : List Observer} {r : σ}
  {orders : List (Nat × Order)} {o : Observer}

/-- An agent that can be timed is on time throughout. -/
theorem Ticking.onTime
    (h : Ticking chain ends horizon i (Operation.start timeout observers r orders) ticks s)
    (ho : observers[i]? = some o) (timed : o.pollInterval ≠ 0) :
    ∃ a, s.supervisor.agents[i]? = some a ∧ a.observer = o ∧
      OnTime o.pollInterval horizon s.now ticks a.activity := by
  induction h with
  | fresh =>
    refine ⟨Agent.spawn o 0, ?_, rfl, .unstarted rfl⟩
    rw [supervisor_start]
    show (observers.map (Agent.spawn · 0))[i]? = _
    rw [List.getElem?_map, ho, Option.map_some]
  | @step ticks s t _ step ih =>
    obtain ⟨a, ha, rfl, honTime⟩ := ih
    obtain ⟨b, hb, turn⟩ := step.turn ha
    refine ⟨b, hb, turn.observer_eq, ?_⟩
    rw [activity?, activity?, ha, hb]
    exact honTime.turn timed turn

/-- **Ticks are serialized and never burst.** Whatever the remote ends do and however long they
take, and whatever the operator orders, the ticks of an agent that can be timed keep its pace
(`IsPaced`). When the time is up for an agent that was not stopped and is in no tick, none was left
out: the tick behind its last one would not start earlier. -/
theorem ticks_paced
    (h : Ticking chain ends horizon i (start timeout observers r orders) ticks s)
    (ho : observers[i]? = some o) (timed : o.pollInterval ≠ 0) :
    IsPaced o.pollInterval ticks ∧
      ∀ deadline, s.activity? i = some (.sleeping deadline) → s.IsComplete horizon →
        (ticks = [] → horizon = 0) ∧
          ∀ x y, ticks.getLast? = some x → Follows o.pollInterval x y → horizon ≤ y.start := by
  obtain ⟨a, ha, -, honTime⟩ := h.onTime ho timed
  refine ⟨honTime.isTimetable.isPaced, fun deadline hsleep complete => ?_⟩
  rw [activity?, ha, Option.map_some, Option.some.injEq] at hsleep
  rw [hsleep, complete.now] at honTime
  cases honTime with
  | unstarted now_eq =>
    exact ⟨fun _ => now_eq, nofun⟩
  | @asleep ticks x stop _ timetable stop?_eq start_le deadline_eq stop_le le early =>
    refine ⟨fun hnil => absurd hnil (by simp), ?_⟩
    intro x' y hx hy
    rw [List.getLast?_concat, Option.some.injEq] at hx
    subst hx
    rw [hy.start_eq, hy.due, ← deadline_eq]
    omega

/-- The sample observer ticks every second, and one of its ticks takes longer. -/
theorem ticks_paced_sampleSlow :
    ∃ horizon ticks s, Ticking ⟨"sample"⟩ .pausing horizon 0
        (start 30000 [Observer.sample .skip] [200, 1300, 10] []) ticks s ∧
      IsPaced 1000 ticks ∧ ticks.map TickTime.start = [0, 1000, 2300] := by
  obtain ⟨horizon, ticks, s, hs, hticks⟩ :=
    exists_ticking (.sample .skip) (by decide) 30000 [200, 1300, 10]
  have hpaced := (ticks_paced hs rfl (by decide)).1
  refine ⟨horizon, ticks, s, hs, hpaced, ?_⟩
  have hstarts := hpaced.determined
  rw [hticks] at hstarts
  exact hstarts

end Operation

end BridgeWatch
