import BridgeWatch.Proofs.Supervisor.InFlight

/-!
# Cancellation

What a supervisor does that was told to stop, by a cancellation or a shutdown, at any point between
two steps.

* `Supervisor.shutdown_eq`: a shutdown returns at once; it fails if it has no time to wait and some
  agent has not ended.
* `Agent.IsOrderly`: an agent that can be timed and, if it has ended, has returned and is idle or
  was aborted.
* `Operation.Patient`: a supervisor whose shutdowns have time to wait; none of its agents is ever
  aborted, and no shutdown fails (`Operation.Patient.run`).
* `Operation.Stopping s u`: since `s` was told to stop, no call was made up to `u`, what is shared
  is as it was but for overrides, and each agent is as it was or has ended where it stood; all
  have ended before the clock moves on.
* `Operation.Awaiting s u`: a shutdown that was begun at `s` waits at `u`, where the clock has not
  moved on, or has returned.
* `cancel_clean`: this is what happens from any point on.
-/

namespace BridgeWatch

namespace Order

/-- Orders do not count events. -/
theorem relayed_obeyAll (xs : List (Nat × Order)) (s : Shared) :
    (obeyAll xs s).relayed = s.relayed := by
  induction xs generalizing s with
  | nil => rfl
  | cons x xs ih =>
    obtain ⟨time, order⟩ := x
    exact (ih _).trans (by cases order <;> rfl)

variable (x : Order) (now : Nat) {s : Supervisor}

theorem shutdownTimeout_apply : (x.apply now s).shutdownTimeout = s.shutdownTimeout := by
  cases x with
  | resync | shutdown => rfl
  | cancel => exact s.shutdownTimeout_cancel

/-- No order sets agents to work again. -/
theorem cancelled_apply (h : s.cancelled = true) : (x.apply now s).cancelled = true := by
  cases x with
  | resync => exact h
  | cancel => exact s.cancelled_cancel
  | shutdown => rfl

end Order

/-! ## Agents -/

namespace Agent

variable {a b c : Agent}

theorem cancel_cancel (a : Agent) : a.cancel.cancel = a.cancel :=
  cancel_of_not_alive a.isAlive_cancel

/-- An agent that stops counts nothing. -/
theorem counters_cancel (a : Agent) :
    a.cancel.progress.status.counters = a.progress.status.counters := by
  unfold cancel
  split
  · rfl
  · split <;> rfl

theorem ne_of_isAlive {how : AgentEnd} (alive : a.isAlive = true) :
    a.activity ≠ .stopped how := by
  intro ended
  cases (isAlive_eq_false_iff.2 ⟨how, ended⟩).symm.trans alive

/-- An agent that is aborted has no time to do anything. -/
theorem abort_of_alive (alive : a.isAlive = true) :
    a.abort = { a with activity := .stopped .aborted } := by
  unfold abort
  split
  · rename_i how ha
    exact absurd ha (ne_of_isAlive alive)
  · rfl

/-- What can become of an agent that was told to stop. -/
inductive Stops (a : Agent) : Agent → Prop
  | still : Stops a a
  | stopped : Stops a a.cancel
  | aborted : Stops a { a with activity := .stopped .aborted }

theorem Stops.cancel (h : a.Stops b) : a.Stops b.cancel := by
  cases h with
  | still => exact .stopped
  | stopped => exact a.cancel_cancel.symm ▸ .stopped
  | aborted => exact .aborted

theorem Stops.abort (h : a.Stops b) : a.Stops b.abort := by
  cases alive : b.isAlive with
  | false => rwa [abort_of_not_alive alive]
  | true =>
    rw [abort_of_alive alive]
    cases h with
    | still => exact .aborted
    | stopped => cases a.isAlive_cancel.symm.trans alive
    | aborted => cases alive

/-- An agent that was told to stop does nothing but end. -/
theorem Stops.turn (h : a.Stops b) {horizon now now' : Nat}
    (turn : b.Turn horizon now true now' c) : a.Stops c := by
  cases turn with
  | still | waited => exact h
  | stopped => exact h.cancel
  | aborted => exact h.abort
  | acted running => cases running

theorem Stops.counters (h : a.Stops b) :
    b.progress.status.counters = a.progress.status.counters := by
  cases h with
  | still => rfl
  | stopped => exact a.counters_cancel
  | aborted => rfl

/-- An agent that can be timed and, if it has ended, has returned and is idle or was aborted. -/
structure IsOrderly (a : Agent) : Prop where
  pollInterval : a.observer.pollInterval ≠ 0
  ended : a.isAlive = false →
    a.activity = .stopped (.returned (.ok ())) ∧ a.progress.status.state = .idle ∨
      a.activity = .stopped .aborted

theorem isOrderly_spawn {o : Observer} (h : o.pollInterval ≠ 0) (now : Nat) :
    (spawn o now).IsOrderly := ⟨h, nofun⟩

theorem isAlive_enter (a : Agent) (next : Nat) (arrival : Phase → Nat) (t : TickStep) :
    (a.enter next arrival t).1.isAlive = true := by
  cases t <;> rfl

/-- An agent that is due does not end of itself, if it can be timed. -/
theorem isAlive_act {now : Nat} (timed : a.observer.pollInterval ≠ 0) (due : a.isDue now = true)
    (delay : Request → Nat) (reply : (q : Request) → q.Reply) (s : Shared) :
    (a.act now delay reply s).1.isAlive = true := by
  unfold act
  cases ha : a.activity with
  | stopped => simp [isDue, due?, ha] at due
  | sleeping deadline =>
    dsimp only
    rw [wake, if_neg timed]
    exact isAlive_enter ..
  | ticking next p arrival => exact isAlive_enter ..

/-- An agent that stops has returned and is idle, unless it had ended already. -/
theorem returned_cancel (timed : a.observer.pollInterval ≠ 0) (alive : a.isAlive = true) :
    a.cancel.activity = .stopped (.returned (.ok ())) ∧
      a.cancel.progress.status.state = .idle := by
  unfold cancel
  split
  · rename_i how ha
    exact absurd ha (ne_of_isAlive alive)
  · rw [if_neg timed]
    exact ⟨rfl, rfl⟩

theorem keeps_isOrderly : Keeps IsOrderly where
  act {a now} h due delay reply s := by
    refine ⟨by rw [observer_act]; exact h.pollInterval, fun ended => ?_⟩
    cases (isAlive_act h.pollInterval due delay reply s).symm.trans ended
  cancel {a} h := by
    refine ⟨by rw [observer_cancel]; exact h.pollInterval, fun _ => ?_⟩
    cases alive : a.isAlive with
    | false =>
      rw [cancel_of_not_alive alive]
      exact h.ended alive
    | true => exact .inl (returned_cancel h.pollInterval alive)

theorem IsOrderly.abort (h : a.IsOrderly) : a.abort.IsOrderly := by
  refine ⟨by rw [observer_abort]; exact h.pollInterval, fun _ => ?_⟩
  cases alive : a.isAlive with
  | false =>
    rw [abort_of_not_alive alive]
    exact h.ended alive
  | true =>
    rw [abort_of_alive alive]
    exact .inr rfl

/-- Agents are aborted by others only. -/
theorem keeps_unaborted : Keeps fun a => a.activity ≠ .stopped .aborted where
  act {a now} h due delay reply s := by
    unfold act
    cases ha : a.activity with
    | stopped => simp [isDue, due?, ha] at due
    | sleeping deadline =>
      dsimp only
      unfold wake
      split
      · simp
      · exact ne_of_isAlive (isAlive_enter ..)
    | ticking next p arrival => exact ne_of_isAlive (isAlive_enter ..)
  cancel {a} h := by
    unfold cancel
    split
    · exact h
    · split <;> simp

end Agent

/-! ## Shutdowns -/

namespace Supervisor

variable {s : Supervisor}

theorem isBusy_stopAll (s : Supervisor) : s.stopAll.isBusy = false :=
  isBusy_eq_false_iff.2 (List.forall_mem_map.2 fun a _ => a.isAlive_cancel)

theorem stopAll_of_not_busy (h : s.isBusy = false) : s.stopAll = s := by
  rw [stopAll, List.map_congr_left fun a ha =>
    Agent.cancel_of_not_alive (isBusy_eq_false_iff.1 h a ha), List.map_id']

theorem conclude?_of_ended {deadline now : Nat} (h : s.isBusy = false) :
    s.conclude? deadline now = some (.ok (), { s with standing := .joined (.ok ()) }) := by
  rw [conclude?, if_pos h]

theorem conclude?_of_late {deadline now : Nat} (busy : s.isBusy = true) (late : deadline ≤ now) :
    s.conclude? deadline now =
      some (.error (.internal "Shutdown timed out"),
        s.joined (.error (.internal "Shutdown timed out"))) := by
  rw [conclude?, busy, if_neg (by decide), if_pos late, joined]

/-- A shutdown that returns when it looks at the agents. -/
theorem join_of_conclude? {deadline now : Nat} {result : Except Fault Unit} {s' : Supervisor}
    (h : s.conclude? deadline now = some (result, s')) :
    s.join deadline now = (result, now, s') := by
  rw [join]
  split
  · rename_i heq
    cases h.symm.trans heq
    rfl
  · rename_i heq
    cases h.symm.trans heq

/-- A shutdown that returns when the agents have acted. -/
theorem join_of_stopAll {deadline now : Nat} {result : Except Fault Unit} {s' : Supervisor}
    (waits : s.conclude? deadline now = none)
    (h : s.stopAll.conclude? deadline now = some (result, s')) :
    s.join deadline now = (result, now, s') := by
  rw [join]
  split
  · rename_i heq
    cases waits.symm.trans heq
  · rw [h]

/-- **A shutdown returns at once.** With time to wait, or with all agents ended, it returns well and
the agents have stopped. If not, it fails and the agents are aborted. -/
theorem shutdown_eq (s : Supervisor) (now : Nat) :
    s.shutdown now =
      if s.shutdownTimeout ≠ 0 ∨ s.isBusy = false then
        (.ok (), now, { s.stopAll with standing := .joined (.ok ()) })
      else
        (.error (.internal "Shutdown timed out"), now,
          s.joined (.error (.internal "Shutdown timed out"))) := by
  have stopped : (s.beginShutdown now).stopAll.isBusy = false := isBusy_stopAll _
  unfold shutdown
  cases hbusy : s.isBusy with
  | false =>
    have begun : (s.beginShutdown now).isBusy = false := hbusy
    rw [if_pos (.inr rfl), join_of_conclude? (conclude?_of_ended begun),
      stopAll_of_not_busy hbusy]
    rfl
  | true =>
    have begun : (s.beginShutdown now).isBusy = true := hbusy
    by_cases htimeout : s.shutdownTimeout = 0
    · have late : now + s.shutdownTimeout ≤ now := by omega
      rw [if_neg (by simp [htimeout]), join_of_conclude? (conclude?_of_late begun late)]
      rfl
    · have waits : (s.beginShutdown now).conclude? (now + s.shutdownTimeout) now = none :=
        conclude?_eq_none_iff.2 ⟨begun, by omega⟩
      rw [if_pos (.inl htimeout), join_of_stopAll waits (conclude?_of_ended stopped)]
      rfl

end Supervisor

namespace Operation

variable {σ : Type} {chain : ChainId} {ends : Ends σ} {horizon : Nat} {s t u : Operation σ}

/-- A supervisor that is given an order between two steps. -/
def ordered (s : Operation σ) (x : Order) : Operation σ :=
  { s with supervisor := x.apply s.now s.supervisor }

/-! ## Supervisors whose shutdowns have time to wait -/

/-- The shutdowns of a supervisor have time to wait, and none has failed so far. -/
structure Patient (s : Operation σ) : Prop where
  /-- There is time, or there is no shutdown. -/
  timeout : s.supervisor.shutdownTimeout ≠ 0 ∨
    s.supervisor.IsSettled ∧ ∀ x ∈ s.orders, x.2 ≠ .shutdown
  now_lt : ∀ deadline, s.supervisor.standing = .joining deadline → s.now < deadline
  result : ∀ result, s.supervisor.standing = .joined result → result = .ok ()
  agents : ∀ a ∈ s.supervisor.agents, a.activity ≠ .stopped .aborted

theorem patient_start {timeout : Nat} (observers : List Observer) (r : σ)
    {orders : List (Nat × Order)} (patient : timeout ≠ 0 ∨ ∀ x ∈ orders, x.2 ≠ .shutdown) :
    (start timeout observers r orders).Patient := by
  have supervisor := supervisor_start timeout observers r orders
  refine ⟨?_, ?_, ?_, ?_⟩
  · rw [supervisor]
    exact patient.imp id fun none => ⟨nofun, none⟩
  · rw [supervisor]
    exact nofun
  · rw [supervisor]
    exact nofun
  · rw [supervisor]
    intro a ha
    obtain ⟨o, -, rfl⟩ := List.mem_map.1 ha
    nofun

theorem Patient.ordered (h : s.Patient) {x : Order}
    (patient : s.supervisor.shutdownTimeout ≠ 0 ∨ x ≠ .shutdown) : (s.ordered x).Patient := by
  have agents : ∀ a ∈ (x.apply s.now s.supervisor).agents, a.activity ≠ .stopped .aborted :=
    (agents_apply x s.now s.supervisor).symm ▸ h.agents
  cases x with
  | resync => exact ⟨h.timeout, h.now_lt, h.result, agents⟩
  | cancel =>
    cases hs : s.supervisor.cancelled with
    | true =>
      rw [Operation.ordered, Order.apply, Supervisor.cancel_of_cancelled hs]
      exact h
    | false =>
      rw [Operation.ordered, Order.apply, Supervisor.cancel_of_running hs]
      exact ⟨h.timeout.imp id fun hs => ⟨nofun, hs.2⟩, nofun, nofun, h.agents⟩
  | shutdown =>
    have htimeout := patient.resolve_right fun hx => hx rfl
    refine ⟨.inl htimeout, ?_, nofun, agents⟩
    rintro deadline ⟨⟩
    show s.now < s.now + s.supervisor.shutdownTimeout
    omega

/-- **A shutdown that has time to wait does not fail**, through one more step. -/
theorem Patient.step (h : s.Patient) (step : Step chain ends horizon s t) : t.Patient := by
  -- a shutdown returns when all agents have ended, before its deadline
  have ended {r : Except Fault Unit × Supervisor}
      (returns : s.supervisor.conclusion? s.now = some r) :
      r.2 = s.supervisor.joined r.1 ∧ s.supervisor.isBusy = false ∧ r.1 = .ok () := by
    obtain ⟨deadline, hs, hr⟩ := Supervisor.conclusion?_eq_some returns
    have hlt := h.now_lt deadline hs
    obtain ⟨heq, ⟨hbusy, hok⟩ | ⟨-, hle, -⟩⟩ := Supervisor.conclude?_eq_some hr
    · exact ⟨heq, hbusy, hok⟩
    · omega
  have agents : ∀ a ∈ t.supervisor.agents, a.activity ≠ .stopped .aborted := by
    refine step.forall_agents Agent.keeps_unaborted h.agents fun returns a ha unaborted => ?_
    obtain ⟨r, hr⟩ := Option.ne_none_iff_exists'.1 returns
    rwa [Agent.abort_of_not_alive (Supervisor.isBusy_eq_false_iff.1 (ended hr).2.1 a ha)]
  cases step with
  | @order x rest waits orders =>
    have sub : ∀ y ∈ rest, y ∈ s.orders := fun y hy => orders ▸ List.mem_cons_of_mem _ hy
    have hx : s.supervisor.shutdownTimeout ≠ 0 ∨ x ≠ .shutdown :=
      h.timeout.imp id fun hs => hs.2 (s.now, x) (orders ▸ List.mem_cons_self)
    have hord := h.ordered hx
    exact ⟨hord.timeout.imp id fun hs => ⟨hs.1, fun y hy => hs.2 y (sub y hy)⟩, hord.now_lt,
      hord.result, agents⟩
  | join returns =>
    obtain ⟨heq, -, hok⟩ := ended returns
    rw [heq, hok] at agents ⊢
    refine ⟨h.timeout.imp id fun hs => ⟨Supervisor.isSettled_joined _ _, hs.2⟩, nofun, ?_, agents⟩
    rintro result ⟨⟩
    rfl
  | stop | act => exact ⟨h.timeout, h.now_lt, h.result, agents⟩
  | clock pass idle =>
    exact ⟨h.timeout, fun deadline hs => absurd hs (pass.isSettled idle deadline), h.result,
      agents⟩

theorem Patient.run (h : s.Patient) (run : Run chain ends horizon s t) : t.Patient := by
  induction run with
  | refl => exact h
  | tail _ step ih => exact ih.step step

/-! ## What holds of every run -/

/-- Agents that can be timed are orderly throughout. -/
theorem Run.isOrderly (run : Run chain ends horizon s t)
    (hs : ∀ a ∈ s.supervisor.agents, a.IsOrderly) : ∀ a ∈ t.supervisor.agents, a.IsOrderly :=
  run.forall_agents Agent.keeps_isOrderly Agent.IsOrderly.abort hs

theorem Step.shutdownTimeout_eq (h : Step chain ends horizon s t) :
    t.supervisor.shutdownTimeout = s.supervisor.shutdownTimeout := by
  cases h with
  | @order x rest waits orders => exact x.shutdownTimeout_apply s.now
  | join returns => rw [Supervisor.eq_joined_of_conclusion? returns, Supervisor.joined]
  | stop | act | clock => rfl

theorem Run.shutdownTimeout_eq (run : Run chain ends horizon s t) :
    t.supervisor.shutdownTimeout = s.supervisor.shutdownTimeout := by
  induction run with
  | refl => rfl
  | tail _ step ih => exact step.shutdownTimeout_eq.trans ih

/-! ## After a cancellation -/

/-- A shutdown that may return does so before anything else happens. -/
theorem Step.eq_of_conclusion? (step : Step chain ends horizon s t)
    {r : Except Fault Unit × Supervisor} (returns : s.supervisor.conclusion? s.now = some r) :
    t = { s with supervisor := r.2 } := by
  cases step with
  | join returns' =>
    cases returns.symm.trans returns'
    rfl
  | order waits => cases waits.symm.trans returns
  | stop pass | act _ _ pass | clock pass => cases pass.waits.symm.trans returns

/-- **Agents that have ended do nothing any more.** -/
theorem Step.agents_eq (step : Step chain ends horizon s t) (ended : s.supervisor.isBusy = false) :
    t.supervisor.agents = s.supervisor.agents := by
  have mem {before after : List Agent} {a : Agent}
      (agents : s.supervisor.agents = before ++ a :: after) : a.isAlive = false :=
    Supervisor.isBusy_eq_false_iff.1 ended a
      (agents ▸ List.mem_append_right _ List.mem_cons_self)
  cases step with
  | @order x rest waits orders => exact agents_apply x s.now s.supervisor
  | join returns =>
    rw [Supervisor.eq_joined_of_conclusion? returns]
    exact Supervisor.map_abort_of_not_busy ended
  | stop pass cancelled agents alive => cases (mem agents).symm.trans alive
  | act delay reply pass running agents due own =>
    rw [Agent.isDue, Agent.due?_of_not_alive (mem agents)] at due
    cases due
  | clock => rfl

theorem Run.agents_eq (run : Run chain ends horizon s t) (ended : s.supervisor.isBusy = false) :
    t.supervisor.agents = s.supervisor.agents := by
  induction run with
  | refl => rfl
  | tail _ step ih =>
    refine (step.agents_eq ?_).trans ih
    rwa [Supervisor.isBusy, ih]

/-- What has become, at `u`, of a supervisor that was told to stop at `s`. -/
structure Stopping (s u : Operation σ) : Prop where
  cancelled : u.supervisor.cancelled = true
  /-- No agent has called a remote end. -/
  calls : u.calls = s.calls
  /-- What observers share is as it was, but for the overrides that were ordered since. -/
  shared : ∃ done, s.orders = done ++ u.orders ∧
    u.supervisor.shared = Order.obeyAll done s.supervisor.shared
  chains : u.supervisor.chains = s.supervisor.chains
  /-- Each agent is as it was, or has ended where it stood. -/
  agents : ∀ (i : Nat) a, s.supervisor.agents[i]? = some a →
    ∃ b, u.supervisor.agents[i]? = some b ∧ a.Stops b
  now_le : s.now ≤ u.now
  /-- All agents have ended before the clock moves on. -/
  ended : s.now < u.now → u.supervisor.isBusy = false

theorem stopping_ordered (s : Operation σ) {x : Order} (told : x = .cancel ∨ x = .shutdown) :
    s.Stopping (s.ordered x) where
  cancelled := by
    rcases told with rfl | rfl
    · exact s.supervisor.cancelled_cancel
    · rfl
  calls := rfl
  shared := by
    refine ⟨[], rfl, (x.shared_apply s.now s.supervisor).trans ?_⟩
    rcases told with rfl | rfl <;> rfl
  chains := congrArg (List.map _) (agents_apply x s.now s.supervisor)
  agents i a ha := ⟨a, (agents_apply x s.now s.supervisor).symm ▸ ha, .still⟩
  now_le := Nat.le_refl _
  ended h := absurd h (Nat.lt_irrefl _)

/-- **A supervisor that was told to stop does nothing but stop**, through one more step. -/
theorem Stopping.step (h : s.Stopping u) (step : Step chain ends horizon u t) : s.Stopping t := by
  obtain ⟨done, horders, hshared⟩ := h.shared
  have hchains := step.chains_eq.trans h.chains
  have hagents : ∀ (i : Nat) a, s.supervisor.agents[i]? = some a →
      ∃ b, t.supervisor.agents[i]? = some b ∧ a.Stops b := by
    intro i a ha
    obtain ⟨b, hb, hab⟩ := h.agents i a ha
    obtain ⟨c, hc, turn⟩ := step.turn hb
    rw [h.cancelled] at turn
    exact ⟨c, hc, hab.turn turn⟩
  have hended (hlt : s.now < u.now) : t.supervisor.isBusy = false := by
    rw [Supervisor.isBusy, step.agents_eq (h.ended hlt)]
    exact h.ended hlt
  cases step with
  | @order x rest waits orders =>
    refine ⟨x.cancelled_apply _ h.cancelled, h.calls, ⟨done ++ [(u.now, x)], ?_, ?_⟩, hchains,
      hagents, h.now_le, hended⟩
    · rw [horders, orders, List.append_assoc]
      rfl
    · rw [Order.shared_apply, hshared, Order.obeyAll_append]
      rfl
  | join returns =>
    rw [Supervisor.eq_joined_of_conclusion? returns] at hagents hended hchains ⊢
    exact ⟨rfl, h.calls, ⟨done, horders, hshared⟩, hchains, hagents, h.now_le, hended⟩
  | stop =>
    exact ⟨h.cancelled, h.calls, ⟨done, horders, hshared⟩, hchains, hagents, h.now_le, hended⟩
  | act _ _ _ running => cases h.cancelled.symm.trans running
  | clock pass idle =>
    refine ⟨h.cancelled, h.calls, ⟨done, horders, hshared⟩, hchains, hagents,
      Nat.le_succ_of_le h.now_le, fun _ => Supervisor.isBusy_eq_false_iff.2 fun a ha => ?_⟩
    have hidle := idle a ha
    rwa [Agent.mayAct, if_pos h.cancelled] at hidle

theorem Stopping.run (h : s.Stopping u) (run : Run chain ends horizon u t) : s.Stopping t := by
  induction run with
  | refl => exact h
  | tail _ step ih => exact ih.step step

/-- No event was counted since. -/
theorem Stopping.relayed (h : s.Stopping u) :
    u.supervisor.shared.relayed = s.supervisor.shared.relayed := by
  obtain ⟨done, -, hshared⟩ := h.shared
  rw [hshared, Order.relayed_obeyAll]

/-- No observer has counted anything since. -/
theorem Stopping.counters (h : s.Stopping u) :
    u.supervisor.agents.map (·.progress.status.counters) =
      s.supervisor.agents.map (·.progress.status.counters) := by
  have hlength := congrArg List.length h.chains
  simp only [Supervisor.chains, List.length_map] at hlength
  refine List.ext_getElem? fun i => ?_
  rw [List.getElem?_map, List.getElem?_map]
  cases ha : s.supervisor.agents[i]? with
  | none =>
    rw [List.getElem?_eq_none_iff, ← hlength, ← List.getElem?_eq_none_iff] at ha
    rw [ha]
  | some a =>
    obtain ⟨b, hb, hab⟩ := h.agents i a ha
    rw [hb, Option.map_some, Option.map_some, hab.counters]

/-- **The agents can all end before the clock moves on**, and a shutdown that waits for them can
return. -/
theorem Stopping.exists_run (h : s.Stopping u) (now_lt : u.now < horizon)
    (orders : ∀ x ∈ u.orders, u.now < x.1) :
    ∃ t, Run chain ends horizon u t ∧ t.now = u.now ∧ t.supervisor.isBusy = false ∧
      t.supervisor.IsSettled := by
  cases hwaits : u.supervisor.conclusion? u.now with
  | some r =>
    -- a shutdown returns already
    exact ⟨_, .single (step_joined hwaits), rfl, u.supervisor.isBusy_joined r.1,
      u.supervisor.isSettled_joined r.1⟩
  | none =>
    have stops : Run chain ends horizon u (u.withAgents (u.supervisor.agents.map Agent.cancel)) :=
      run_stopAll ⟨now_lt, hwaits, orders⟩ h.cancelled [] u.supervisor.agents
    have ended : (u.withAgents (u.supervisor.agents.map Agent.cancel)).supervisor.isBusy = false :=
      u.supervisor.isBusy_stopAll
    cases hreturns : u.supervisor.stopAll.conclusion? u.now with
    | none =>
      refine ⟨_, stops, rfl, ended, fun deadline hs => ?_⟩
      cases ended.symm.trans (Supervisor.conclusion?_eq_none_iff.1 hreturns deadline hs).1
    | some r =>
      exact ⟨_, stops.tail (step_joined hreturns), rfl, u.supervisor.stopAll.isBusy_joined r.1,
        u.supervisor.stopAll.isSettled_joined r.1⟩

/-- What has become, at `u`, of a shutdown that was begun at `s`, if no other one was. -/
structure Awaiting (s u : Operation σ) : Prop where
  orders : ∀ x ∈ u.orders, x.2 ≠ .shutdown
  /-- It waits, and the clock has not moved on, or it has returned. -/
  standing : u.now = s.now ∧ (∃ deadline, u.supervisor.standing = .joining deadline) ∨
    ∃ result, u.supervisor.standing = .joined result

theorem Awaiting.step (h : s.Awaiting u) (step : Step chain ends horizon u t) : s.Awaiting t := by
  cases step with
  | @order x rest waits orders =>
    refine ⟨fun y hy => h.orders y (orders ▸ List.mem_cons_of_mem _ hy), ?_⟩
    cases x with
    | resync => exact h.standing
    | cancel =>
      have told : u.supervisor.cancelled = true := by
        rcases h.standing with ⟨-, deadline, hs⟩ | ⟨result, hs⟩ <;> rw [Supervisor.cancelled, hs]
      simp only [Order.apply, Supervisor.cancel_of_cancelled told]
      exact h.standing
    | shutdown => exact absurd rfl (h.orders (u.now, .shutdown) (orders ▸ List.mem_cons_self))
  | @join r returns =>
    exact ⟨h.orders, .inr ⟨r.1, by rw [Supervisor.eq_joined_of_conclusion? returns]; rfl⟩⟩
  | stop => exact ⟨h.orders, h.standing⟩
  | act => exact ⟨h.orders, h.standing⟩
  | clock pass idle =>
    refine ⟨h.orders, .inr (h.standing.resolve_left ?_)⟩
    rintro ⟨-, deadline, hs⟩
    exact pass.isSettled idle deadline hs

theorem awaiting_shutdown (s : Operation σ) (none : ∀ x ∈ s.orders, x.2 ≠ .shutdown) :
    s.Awaiting (s.ordered .shutdown) := ⟨none, .inl ⟨rfl, _, rfl⟩⟩

theorem Awaiting.run (h : s.Awaiting u) (run : Run chain ends horizon u t) : s.Awaiting t := by
  induction run with
  | refl => exact h
  | tail _ step ih => exact ih.step step

/-- A shutdown that has time to wait has returned well when the clock has moved on. -/
theorem Awaiting.standing_eq (h : s.Awaiting u) (patient : u.Patient)
    (returned : s.now < u.now ∨ u.supervisor.IsSettled) :
    u.supervisor.standing = .joined (.ok ()) := by
  rcases h.standing with ⟨hnow, deadline, hs⟩ | ⟨result, hs⟩
  · rcases returned with hlt | settled
    · omega
    · exact absurd hs (settled deadline)
  · rw [hs, patient.result result hs]

/-! ## Cancellation -/

/-- **Cancellation is clean.** Take any run of a supervisor whose observers can be timed, and tell
it to stop at any point between two steps. However the run goes on, no agent calls a remote end,
nothing that is shared changes but by overrides, no observer counts anything, and the agents can
all end before the clock moves on, and do. An agent that has ended has returned well and is idle,
or it was aborted where it stood by a shutdown without time to wait. A shutdown returns before the
clock moves on, and well if it has time to wait or nothing to wait for. And a tick that was in
flight has moved no watermark since it began. -/
theorem cancel_clean {timeout : Nat} {observers : List Observer} {r : σ}
    {orders : List (Nat × Order)} (timed : ∀ o ∈ observers, o.pollInterval ≠ 0)
    (run : Run chain ends horizon (start timeout observers r orders) s) {x : Order}
    (told : x = .cancel ∨ x = .shutdown) :
    (∀ u, Run chain ends horizon (s.ordered x) u →
      s.Stopping u ∧ u.supervisor.shared.relayed = s.supervisor.shared.relayed ∧
      u.supervisor.agents.map (·.progress.status.counters) =
        s.supervisor.agents.map (·.progress.status.counters) ∧
      (u.now < horizon → (∀ y ∈ u.orders, u.now < y.1) →
        ∃ t, Run chain ends horizon u t ∧ t.now = u.now ∧ t.supervisor.isBusy = false ∧
          t.supervisor.IsSettled) ∧
      (∀ a ∈ u.supervisor.agents, a.isAlive = false →
        a.activity = .stopped (.returned (.ok ())) ∧ a.progress.status.state = .idle ∨
          a.activity = .stopped .aborted ∧ timeout = 0 ∧
            (x = .shutdown ∨ ∃ y ∈ orders, y.2 = .shutdown)) ∧
      (timeout ≠ 0 → x = .shutdown → (∀ y ∈ s.orders, y.2 ≠ .shutdown) →
        s.now < u.now ∨ u.supervisor.IsSettled → u.supervisor.standing = .joined (.ok ()))) ∧
    (s.supervisor.shutdown s.now =
      if timeout ≠ 0 ∨ s.supervisor.isBusy = false then
        (.ok (), s.now, { s.supervisor.stopAll with standing := .joined (.ok ()) })
      else
        (.error (.internal "Shutdown timed out"), s.now,
          s.supervisor.joined (.error (.internal "Shutdown timed out")))) ∧
    ∀ (i : Nat) a next p arrival, s.supervisor.agents[i]? = some a →
      a.activity = .ticking next p arrival →
        ∃ q, Run chain ends horizon (start timeout observers r orders) q ∧
          TickSince chain ends horizon i p a.observer.chain q s := by
  have supervisor := supervisor_start timeout observers r orders
  have htimeout : s.supervisor.shutdownTimeout = timeout := by
    rw [run.shutdownTimeout_eq, supervisor]
    rfl
  have patient (h : timeout ≠ 0 ∨ x ≠ .shutdown ∧ ∀ y ∈ orders, y.2 ≠ .shutdown) :
      (s.ordered x).Patient := by
    refine ((patient_start observers r (h.imp id And.right)).run run).ordered ?_
    rw [htimeout]
    exact h.imp id And.left
  have orderly : ∀ a ∈ (s.ordered x).supervisor.agents, a.IsOrderly := by
    refine (agents_apply x s.now s.supervisor).symm ▸ run.isOrderly fun a ha => ?_
    rw [supervisor] at ha
    obtain ⟨o, ho, rfl⟩ := List.mem_map.1 ha
    exact Agent.isOrderly_spawn (timed o ho) 0
  refine ⟨fun u hu => ?_, ?_, ?_⟩
  · have h := (stopping_ordered s told).run hu
    refine ⟨h, h.relayed, h.counters, h.exists_run, fun a ha ended => ?_, ?_⟩
    · refine ((hu.isOrderly orderly a ha).ended ended).imp_right fun aborted => ⟨aborted, ?_⟩
      by_contra hasty
      rw [not_and_or, not_or] at hasty
      simp only [not_exists, not_and] at hasty
      exact ((patient hasty).run hu).agents a ha aborted
    · rintro hne rfl none returned
      exact ((awaiting_shutdown s none).run hu).standing_eq ((patient (.inl hne)).run hu) returned
  · rw [s.supervisor.shutdown_eq, htimeout]
  · intro i a next p arrival ha hp
    refine run.exists_tickSince (fun b hb => ?_) ha hp
    rw [supervisor] at hb
    obtain ⟨o, -, rfl⟩ := List.mem_map.1 hb
    exact ⟨0, rfl⟩

/-- The sample observer, set to work to tick every millisecond. -/
def sampleStart (shutdownTimeout : Nat) : Operation Unit :=
  start shutdownTimeout [{ Observer.sample .skip with pollInterval := 1 }] () []

/-- Remote ends of a chain that nobody observes. -/
def unobserved : Ends Unit where
  accept _ _ _ := (0, ())
  answer _ q _ := (q.failed, ())

/-- What the remote ends of the sample chain answer: it starts at block 5, its head is at block 8,
and there are two logs, which the ledger accepts. -/
def sampleReply : (q : Request) → q.Reply
  | .recordedHeight _ => .ok 5
  | .head => .ok 8
  | .logs _ _ => .ok [.sample, .sample]
  | .submit _ => .ok ⟨"id"⟩

/-- The first agent of a supervisor acts. -/
def firstActs (s : Operation Unit) : Operation Unit :=
  match s.supervisor.agents with
  | [] => s
  | a :: after => s.acted ⟨"unobserved"⟩ unobserved [] a after (fun _ => 0) sampleReply

theorem step_firstActs {s : Operation Unit} {a : Agent} {after : List Agent}
    (agents : s.supervisor.agents = a :: after) (now : s.now ≤ 8) (orders : s.orders = [])
    (running : s.supervisor.cancelled = false) (due : a.isDue s.now = true)
    (sample : a.observer.chain = ⟨"sample"⟩) :
    Step ⟨"unobserved"⟩ unobserved 9 s (firstActs s) := by
  have pass : s.MayPass 9 :=
    mayPass_of_orders_nil (by omega) (Supervisor.isSettled_of_running running) orders
  rw [firstActs, agents]
  refine .act _ _ pass running agents due fun hc => ?_
  exact absurd (sample.symm.trans hc) (by decide)

/-- The sample observer has started the chain and fetched two logs; one is submitted, and the
submission of the other waits. -/
def sampleInFlight (shutdownTimeout : Nat) : Operation Unit :=
  let begun := firstActs (firstActs (sampleStart shutdownTimeout))
  firstActs (firstActs (firstActs (firstActs { begun with now := 1 })))

set_option maxRecDepth 4000 in
theorem run_sampleInFlight (shutdownTimeout : Nat) :
    Run ⟨"unobserved"⟩ unobserved 9 (sampleStart shutdownTimeout)
      (sampleInFlight shutdownTimeout) := by
  have zero_le : 0 ≤ 8 := by decide
  have one_le : 1 ≤ 8 := by decide
  refine .head (step_firstActs rfl zero_le rfl rfl rfl rfl) ?_
  refine .head (step_firstActs rfl zero_le rfl rfl rfl rfl) ?_
  refine .head (.clock (mayPass_of_orders_nil (Nat.zero_lt_succ 8) nofun rfl) ?_) ?_
  · exact List.forall_mem_singleton.2 rfl
  refine .head (step_firstActs rfl one_le rfl rfl rfl rfl) ?_
  refine .head (step_firstActs rfl one_le rfl rfl rfl rfl) ?_
  refine .head (step_firstActs rfl one_le rfl rfl rfl rfl) ?_
  exact .single (step_firstActs rfl one_le rfl rfl rfl rfl)

set_option maxRecDepth 4000 in
/-- The tick of the sample is dropped although one of its two events was relayed. -/
theorem cancel_clean_sampleInFlight :
    Run ⟨"unobserved"⟩ unobserved 9 (sampleStart 30000) (sampleInFlight 30000) ∧
      ∀ u, Run ⟨"unobserved"⟩ unobserved 9 ((sampleInFlight 30000).ordered .shutdown) u →
        u.calls = (sampleInFlight 30000).calls ∧ u.supervisor.shared.relayed.release = 1 ∧
        u.supervisor.shared.watermark? ⟨"sample"⟩ = some 5 ∧
        (∀ a ∈ u.supervisor.agents, a.isAlive = false → a.progress.status.state = .idle) ∧
        (u.supervisor.IsSettled → u.supervisor.standing = .joined (.ok ())) := by
  refine ⟨run_sampleInFlight 30000, fun u hu => ?_⟩
  obtain ⟨h, hrelayed, -, -, hended, hreturned⟩ :=
    (cancel_clean (by simp) (run_sampleInFlight 30000) (.inr rfl)).1 u hu
  obtain ⟨done, horders, hshared⟩ := h.shared
  obtain ⟨rfl, -⟩ := List.append_eq_nil_iff.1 (show done ++ u.orders = [] from horders.symm)
  refine ⟨h.calls, hrelayed ▸ rfl, ?_, ?_, ?_⟩
  · rw [hshared]
    rfl
  · exact fun a ha ended => ((hended a ha ended).resolve_right (by simp)).2
  · exact fun settled => hreturned (by decide) rfl nofun (.inr settled)

set_option maxRecDepth 4000 in
/-- Without time to wait for it, the agent of the sample is aborted in its tick: it never returns,
and it is never idle. -/
theorem shutdown_sampleInFlight_aborts :
    Run ⟨"unobserved"⟩ unobserved 9 (sampleStart 0) (sampleInFlight 0) ∧
      ∀ u, Run ⟨"unobserved"⟩ unobserved 9 ((sampleInFlight 0).ordered .shutdown) u →
        ∃ a, u.supervisor.agents = [a] ∧ a.observer.pollInterval ≠ 0 ∧
          a.activity ≠ .stopped (.returned (.ok ())) ∧ a.progress.status.state ≠ .idle := by
  refine ⟨run_sampleInFlight 0, fun u hu => ?_⟩
  rcases hu.cases_head with rfl | ⟨t, step, rest⟩
  · exact ⟨_, rfl, by decide, nofun, nofun⟩
  · -- the shutdown fails before anything else happens, and nothing happens after it
    obtain rfl := step.eq_of_conclusion? rfl
    exact ⟨_, (Run.agents_eq rest rfl).trans rfl, by decide, nofun, nofun⟩

end Operation

end BridgeWatch
