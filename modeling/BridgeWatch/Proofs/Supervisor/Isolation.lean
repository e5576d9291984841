import BridgeWatch.Proofs.Observer.Relaying
import BridgeWatch.Proofs.Rehearsal.Schedule

/-!
# Chains are isolated

The observers of a supervisor share the watermarks, the ledger and the clock, and their steps
interleave at every point where one waits. None of this shows on a chain:

* `Operation.Alike chain s q`: the supervisor `q` has what `s` has for one chain, and nothing else.
* `Step.project`: whatever step `s` takes, `q` takes the same one if it is for the chain, and none
  if it is for another.
* `isolation`: two supervisors that agree on the observer of a chain, on the answers it gets and on
  the orders that concern it show the same conduct of the chain, which is the one of the observer
  alone.
* `Rehearsal.Alike.sleep`: rehearsals that agree on a chain go on to agree on it.
-/

namespace BridgeWatch

/-! ## One step of one agent -/

namespace Agent

variable {a : Agent} {now : Nat} {delay : Request → Nat} {reply : (q : Request) → q.Reply}
  {s s' : Shared} {chain : ChainId}

theorem enter_alike (a : Agent) (next : Nat) (arrival : Phase → Nat) {t t' : TickStep}
    (h : t.Alike chain t') :
    (a.enter next arrival t).1 = (a.enter next arrival t').1 ∧
      (a.enter next arrival t).2.watermark? chain =
        (a.enter next arrival t').2.watermark? chain := by
  cases h with
  | waiting h =>
    refine ⟨?_, h.watermark⟩
    simp only [enter, h.progress]
  | finished h =>
    refine ⟨?_, h.watermark⟩
    simp only [enter, h.progress]

/-- Of what is shared, an agent uses the watermark of its own chain only. -/
theorem act_alike (a : Agent) (now : Nat) (delay : Request → Nat)
    (reply : (q : Request) → q.Reply)
    (h : s.watermark? a.observer.chain = s'.watermark? a.observer.chain) :
    (a.act now delay reply s).1 = (a.act now delay reply s').1 ∧
      (a.act now delay reply s).2.watermark? a.observer.chain =
        (a.act now delay reply s').2.watermark? a.observer.chain := by
  have hv : View.Alike a.observer.chain ⟨a.progress, s⟩ ⟨a.progress, s'⟩ := ⟨rfl, h⟩
  unfold act
  split
  · exact ⟨rfl, h⟩
  · unfold wake
    split
    · exact ⟨rfl, h⟩
    · exact a.enter_alike _ _ (a.observer.alike_startTick hv)
  · exact a.enter_alike _ _ (a.observer.alike_resumeTick hv _ _)

theorem watermark?_enter (a : Agent) (next : Nat) (arrival : Phase → Nat) (t : TickStep) :
    (a.enter next arrival t).2.watermark? chain = t.view.watermark? chain := by
  cases t <;> rfl

/-- An agent keeps the watermarks of all other chains. -/
theorem watermark?_act_of_ne (a : Agent) (now : Nat) (delay : Request → Nat)
    (reply : (q : Request) → q.Reply) (s : Shared) (h : chain ≠ a.observer.chain) :
    (a.act now delay reply s).2.watermark? chain = s.watermark? chain := by
  unfold act
  split
  · rfl
  · unfold wake
    split
    · rfl
    · rw [watermark?_enter, Observer.watermark?_startTick]
      rfl
  · unfold resume
    rw [watermark?_enter, Observer.watermark?_resumeTick_of_ne _ _ _ _ h]
    rfl

/-- The agent observes a chain. -/
def observes (chain : ChainId) (a : Agent) : Bool := a.observer.chain = chain

end Agent

namespace Operation

variable {σ : Type} {chain : ChainId} {ends : Ends σ} {horizon : Nat}

/-! ## The simulation -/

/-- A shutdown waits for the agents of both supervisors, and the deadline of both has passed or of
neither, or it does not wait for those of `q`: nor does it for those of `s`, or it has returned
earlier at `q`, whose agents have ended. -/
def WaitsAlike (now : Nat) (s q : Supervisor) : Prop :=
  (∃ deadline deadline', s.standing = .joining deadline ∧ q.standing = .joining deadline' ∧
      (deadline ≤ now ↔ deadline' ≤ now)) ∨
    q.IsSettled ∧ (s.IsSettled ∨ q.isBusy = false)

theorem WaitsAlike.cancel {now : Nat} {s q : Supervisor} (h : WaitsAlike now s q) :
    WaitsAlike now s.cancel q.cancel := by
  rcases h with ⟨deadline, deadline', hs, hq, hdue⟩ | ⟨settled, h⟩
  · rw [Supervisor.cancel_of_cancelled (Supervisor.cancelled_of_joining hs),
      Supervisor.cancel_of_cancelled (Supervisor.cancelled_of_joining hq)]
    exact .inl ⟨deadline, deadline', hs, hq, hdue⟩
  · exact .inr ⟨settled.cancel, h.imp Supervisor.IsSettled.cancel (q.isBusy_cancel.trans ·)⟩

/-- The supervisor `q` has what `s` has for one chain, and nothing else. -/
structure Alike (chain : ChainId) (s q : Operation σ) : Prop where
  now : s.now = q.now
  cancelled : s.supervisor.cancelled = q.supervisor.cancelled
  waits : WaitsAlike s.now s.supervisor q.supervisor
  /-- A shutdown that is still to come waits at all for the agents of both, or for those of neither.
  -/
  timeout : (∃ time, (time, Order.shutdown) ∈ s.orders) →
    (s.supervisor.shutdownTimeout = 0 ↔ q.supervisor.shutdownTimeout = 0)
  agents : s.supervisor.agents.filter (Agent.observes chain) = q.supervisor.agents
  watermark : s.supervisor.shared.watermark? chain = q.supervisor.shared.watermark? chain
  ends : s.ends = q.ends
  calls : s.calls.filter (·.chain = chain) = q.calls
  orders : s.orders.filter (·.2.concerns chain) = q.orders

theorem Alike.mayPass {s q : Operation σ} (h : s.Alike chain q) (pass : s.MayPass horizon)
    (waits : q.supervisor.conclusion? q.now = none) : q.MayPass horizon := by
  refine ⟨h.now ▸ pass.now_lt, waits, ?_⟩
  intro x hx
  rw [← h.orders] at hx
  exact h.now ▸ pass.orders x (List.mem_filter.1 hx).1

theorem Alike.isComplete {s q : Operation σ} (h : s.Alike chain q)
    (complete : s.IsComplete horizon) (waits : q.supervisor.conclusion? q.now = none) :
    q.IsComplete horizon := by
  refine ⟨h.now ▸ complete.now, waits, ?_⟩
  rw [← h.orders, complete.orders]
  rfl

theorem filter_observes_of_observes {before after : List Agent} {a : Agent}
    (h : a.observes chain = true) :
    (before ++ a :: after).filter (Agent.observes chain) =
      before.filter (Agent.observes chain) ++ a :: after.filter (Agent.observes chain) := by
  rw [List.filter_append, List.filter_cons_of_pos h]

theorem filter_observes_of_not {before after : List Agent} {a : Agent}
    (h : ¬a.observes chain = true) :
    (before ++ a :: after).filter (Agent.observes chain) =
      before.filter (Agent.observes chain) ++ after.filter (Agent.observes chain) := by
  rw [List.filter_append, List.filter_cons_of_neg h]

theorem filter_observes_map_abort (agents : List Agent) :
    (agents.map Agent.abort).filter (Agent.observes chain) =
      (agents.filter (Agent.observes chain)).map Agent.abort := by
  have hc : Agent.observes chain ∘ Agent.abort = Agent.observes chain := by
    funext a
    simp only [Function.comp_apply, Agent.observes, Agent.observer_abort]
  rw [List.filter_map, hc]

/-- Where all agents have ended, those of the chain have. -/
theorem Alike.isBusy_eq_false {s q : Operation σ} (h : s.Alike chain q)
    (hbusy : s.supervisor.isBusy = false) : q.supervisor.isBusy = false := by
  rw [Supervisor.isBusy_eq_false_iff] at hbusy ⊢
  intro a ha
  rw [← h.agents] at ha
  exact hbusy a (List.mem_filter.1 ha).1

/-- A shutdown that waits for the agents of `s` may have to return first at `q`. -/
theorem Alike.settle {s q : Operation σ} (h : s.Alike chain q)
    (waits : s.supervisor.conclusion? s.now = none) : ∃ q', Run chain ends horizon q q' ∧
      s.Alike chain q' ∧ q'.supervisor.conclusion? q'.now = none := by
  rcases h.waits with ⟨deadline, deadline', hs, hq, hdue⟩ | ⟨settled, -⟩
  · obtain ⟨-, hlt⟩ := Supervisor.conclusion?_eq_none_iff.1 waits deadline hs
    cases hresult : q.supervisor.conclusion? q.now with
    | none => exact ⟨q, .refl, h, hresult⟩
    | some r =>
      have hnot : ¬deadline' ≤ q.now := h.now ▸ fun hle => Nat.not_le.2 hlt (hdue.2 hle)
      obtain ⟨deadline'', hq', hr⟩ := Supervisor.conclusion?_eq_some hresult
      cases hq.symm.trans hq'
      obtain ⟨hbusy, -⟩ | ⟨-, hle, -⟩ := (Supervisor.conclude?_eq_some hr).2
      · have hagents := Supervisor.map_abort_of_not_busy hbusy
        have told := h.cancelled.trans (Supervisor.cancelled_of_joining hq)
        have settled := q.supervisor.isSettled_joined r.1
        have ended := q.supervisor.isBusy_joined r.1
        exact ⟨_, .single (step_joined hresult), ⟨h.now, told,
          .inr ⟨settled, .inr ended⟩, h.timeout, h.agents.trans hagents.symm, h.watermark, h.ends,
          h.calls, h.orders⟩, settled.conclusion? _⟩
      · exact absurd hle hnot
  · exact ⟨q, .refl, h, settled.conclusion? _⟩

/-- A shutdown that returns at `s` does so at `q`, or has done so. -/
theorem Alike.join {s q : Operation σ} (h : s.Alike chain q) {r : Except Fault Unit × Supervisor}
    (returns : s.supervisor.conclusion? s.now = some r) : ∃ q', Run chain ends horizon q q' ∧
      Alike chain { s with supervisor := r.2 } q' := by
  rw [Supervisor.eq_joined_of_conclusion? returns]
  have settled := s.supervisor.isSettled_joined r.1
  have hagents : (s.supervisor.joined r.1).agents.filter (Agent.observes chain) =
      q.supervisor.agents.map Agent.abort := by
    rw [← h.agents]
    exact filter_observes_map_abort _
  obtain ⟨deadline, hs, hr⟩ := Supervisor.conclusion?_eq_some returns
  rcases h.waits with ⟨deadline₁, deadline', hs₁, hq, hdue⟩ | ⟨settled', hsettled | hbusy⟩
  · cases hs.symm.trans hs₁
    have hsome : ∃ r', q.supervisor.conclusion? q.now = some r' := by
      rw [← Option.ne_none_iff_exists', Ne, Supervisor.conclusion?_eq_none_iff]
      intro hnone
      obtain ⟨hbusy', hlt⟩ := hnone deadline' hq
      obtain ⟨hbusy, -⟩ | ⟨-, hle, -⟩ := (Supervisor.conclude?_eq_some hr).2
      · rw [h.isBusy_eq_false hbusy] at hbusy'
        cases hbusy'
      · exact absurd (hdue.1 hle) (Nat.not_le.2 (h.now ▸ hlt))
    obtain ⟨r', returns'⟩ := hsome
    exact ⟨_, .single (step_joined returns'), h.now, rfl,
      .inr ⟨q.supervisor.isSettled_joined r'.1, .inl settled⟩, h.timeout, hagents, h.watermark,
      h.ends, h.calls, h.orders⟩
  · exact absurd hs (hsettled deadline)
  · have told := (Supervisor.cancelled_of_joining hs).symm.trans h.cancelled
    exact ⟨q, .refl, h.now, told, .inr ⟨settled', .inl settled⟩, h.timeout,
      hagents.trans (Supervisor.map_abort_of_not_busy hbusy), h.watermark, h.ends, h.calls,
      h.orders⟩

/-- An order that concerns a chain is carried out alike, and no other order shows on it. -/
theorem Alike.order {s q : Operation σ} (h : s.Alike chain q)
    (waits : q.supervisor.conclusion? q.now = none) {x : Order} {rest : List (Nat × Order)}
    (orders : s.orders = (s.now, x) :: rest) : ∃ q', Run chain ends horizon q q' ∧
      Alike chain { s with supervisor := x.apply s.now s.supervisor, orders := rest } q' := by
  have hq := h.orders
  rw [orders] at hq
  have timeout : (∃ time, (time, Order.shutdown) ∈ rest) →
      (s.supervisor.shutdownTimeout = 0 ↔ q.supervisor.shutdownTimeout = 0) := by
    rintro ⟨time, hmem⟩
    exact h.timeout ⟨time, orders ▸ List.mem_cons_of_mem _ hmem⟩
  by_cases hx : x.concerns chain = true
  · simp only [List.filter_cons, hx, if_true, h.now] at hq
    refine ⟨_, .single (.order waits hq.symm), ?_⟩
    cases x with
    | resync c height =>
      obtain rfl : c = chain := of_decide_eq_true hx
      refine ⟨h.now, h.cancelled, h.waits, timeout, h.agents, ?_, h.ends, h.calls, rfl⟩
      exact (WatermarkStore.get?_set_self ..).trans (WatermarkStore.get?_set_self ..).symm
    | cancel =>
      refine ⟨h.now, ?_, h.waits.cancel, ?_, ?_, ?_, h.ends, h.calls, rfl⟩
      · exact s.supervisor.cancelled_cancel.trans q.supervisor.cancelled_cancel.symm
      · show _ → (s.supervisor.cancel.shutdownTimeout = 0 ↔ q.supervisor.cancel.shutdownTimeout = 0)
        rwa [s.supervisor.shutdownTimeout_cancel, q.supervisor.shutdownTimeout_cancel]
      · show s.supervisor.cancel.agents.filter _ = q.supervisor.cancel.agents
        rw [s.supervisor.agents_cancel, q.supervisor.agents_cancel, h.agents]
      · show s.supervisor.cancel.shared.watermark? chain =
          q.supervisor.cancel.shared.watermark? chain
        rw [s.supervisor.shared_cancel, q.supervisor.shared_cancel, h.watermark]
    | shutdown =>
      have hzero := h.timeout ⟨s.now, orders ▸ List.mem_cons_self⟩
      refine ⟨h.now, rfl, .inl ⟨_, _, rfl, rfl, ?_⟩, timeout, h.agents, h.watermark, h.ends,
        h.calls, rfl⟩
      show s.now + s.supervisor.shutdownTimeout ≤ s.now ↔
        q.now + q.supervisor.shutdownTimeout ≤ s.now
      have := h.now
      omega
  · simp only [List.filter_cons, hx, if_false, Bool.false_eq_true] at hq
    cases x with
    | resync c height =>
      have hc : chain ≠ c := fun hc => hx (decide_eq_true hc.symm)
      refine ⟨q, .refl, h.now, h.cancelled, h.waits, timeout, h.agents, ?_, h.ends, h.calls, hq⟩
      exact (WatermarkStore.get?_set_of_ne _ hc height).trans h.watermark
    | cancel | shutdown => exact absurd rfl hx

/-- A step of the chain's agent is taken alike. -/
theorem Alike.act {s q : Operation σ} (h : s.Alike chain q) {a : Agent}
    (running : s.supervisor.cancelled = false) (hc : a.observer.chain = chain)
    {before after : List Agent} (delay : Request → Nat) (reply : (q : Request) → q.Reply) :
    (s.acted chain ends before a after delay reply).Alike chain
      (q.acted chain ends (before.filter (Agent.observes chain)) a
        (after.filter (Agent.observes chain)) delay reply) := by
  subst hc
  have hn := h.now
  have ha : (a.act q.now delay reply q.supervisor.shared).1.observes a.observer.chain = true := by
    rw [Agent.observes, Agent.observer_act, decide_eq_true rfl]
  obtain ⟨hb, hw⟩ := a.act_alike q.now delay reply h.watermark
  have settled := Supervisor.isSettled_of_running running
  have settled' := Supervisor.isSettled_of_running (h.cancelled ▸ running)
  refine ⟨h.now, h.cancelled, .inr ⟨settled', .inl settled⟩, h.timeout, ?_, ?_, ?_, ?_, h.orders⟩
  · simp only [acted, hn, hb, filter_observes_of_observes ha]
  · simp only [acted, hn, hw]
  · simp only [acted, h.ends, hn, hb]
  · simp only [acted, List.filter_append, h.calls, hn, hb]
    congr 1
    cases (a.act q.now delay reply q.supervisor.shared).1.pending? with
    | none => rfl
    | some r => simp

/-- A step of another chain's agent does not show on the chain. -/
theorem Alike.act_of_ne {s q : Operation σ} (h : s.Alike chain q) {a : Agent}
    (hc : a.observer.chain ≠ chain) {before after : List Agent}
    (agents : s.supervisor.agents = before ++ a :: after) (delay : Request → Nat)
    (reply : (q : Request) → q.Reply) :
    (s.acted chain ends before a after delay reply).Alike chain q := by
  have ha : ¬a.observes chain = true := fun ha => hc (of_decide_eq_true ha)
  have hb : ¬(a.act s.now delay reply s.supervisor.shared).1.observes chain = true := by
    rw [Agent.observes, Agent.observer_act]
    exact ha
  have hq := h.agents
  rw [agents, filter_observes_of_not ha] at hq
  refine ⟨h.now, h.cancelled, h.waits, h.timeout, ?_, ?_, ?_, ?_, h.orders⟩
  · exact (filter_observes_of_not hb).trans hq
  · exact (a.watermark?_act_of_ne _ _ _ _ hc.symm).trans h.watermark
  · simp only [acted, if_neg hc, h.ends]
  · simp only [acted, List.filter_append, h.calls]
    cases (a.act s.now delay reply s.supervisor.shared).1.pending? with
    | none => simp
    | some r => simp [hc]

/-- An agent that was told to stop does so alike, and does not show on another chain. -/
theorem Alike.stop {s q : Operation σ} (h : s.Alike chain q) (pass : q.MayPass horizon)
    (cancelled : s.supervisor.cancelled = true) {a : Agent} {before after : List Agent}
    (agents : s.supervisor.agents = before ++ a :: after) (alive : a.isAlive = true) :
    ∃ q', Run chain ends horizon q q' ∧
      (s.withAgents (before ++ a.cancel :: after)).Alike chain q' := by
  have hq := h.agents
  rw [agents] at hq
  have hobserves : a.cancel.observes chain = a.observes chain := by
    rw [Agent.observes, Agent.observer_cancel, Agent.observes]
  by_cases ha : a.observes chain = true
  · rw [filter_observes_of_observes ha] at hq
    refine ⟨_, .single (.stop pass (h.cancelled ▸ cancelled) hq.symm alive), ?_⟩
    have hbusy : ¬q.supervisor.isBusy = false := by
      have hmem : a ∈ q.supervisor.agents := hq ▸ List.mem_append_right _ List.mem_cons_self
      simp [Supervisor.isBusy_of_mem hmem alive]
    refine ⟨h.now, h.cancelled, h.waits.imp_right ?_, h.timeout,
      filter_observes_of_observes (hobserves.trans ha), h.watermark, h.ends, h.calls, h.orders⟩
    exact And.imp_right fun h => .inl (h.resolve_right hbusy)
  · rw [filter_observes_of_not ha] at hq
    exact ⟨q, .refl, h.now, h.cancelled, h.waits, h.timeout,
      (filter_observes_of_not (hobserves ▸ ha)).trans hq, h.watermark, h.ends, h.calls, h.orders⟩

/-- The clock moves on alike. -/
theorem Alike.clock {s q : Operation σ} (h : s.Alike chain q) (pass : s.MayPass horizon)
    (pass' : q.MayPass horizon)
    (idle : ∀ a ∈ s.supervisor.agents, a.mayAct s.now s.supervisor.cancelled = false) :
    ∃ q', Run chain ends horizon q q' ∧ Alike chain { s with now := s.now + 1 } q' := by
  have idle' : ∀ a ∈ q.supervisor.agents, a.mayAct q.now q.supervisor.cancelled = false := by
    intro a ha
    rw [← h.agents] at ha
    rw [← h.now, ← h.cancelled]
    exact idle a (List.mem_filter.1 ha).1
  exact ⟨_, .single (.clock pass' idle'), congrArg (· + 1) h.now, h.cancelled,
    .inr ⟨pass'.isSettled idle', .inl (pass.isSettled idle)⟩, h.timeout, h.agents, h.watermark,
    h.ends, h.calls, h.orders⟩

/-- **Each step for a chain is taken alike, and a step for another chain does not show on it.** -/
theorem Step.project {s t q : Operation σ} (step : Step chain ends horizon s t)
    (h : s.Alike chain q) : ∃ q', Run chain ends horizon q q' ∧ t.Alike chain q' := by
  -- what has to return at `q` does so first
  have settled (waits : s.supervisor.conclusion? s.now = none)
      (taken : ∀ q₁, s.Alike chain q₁ → q₁.supervisor.conclusion? q₁.now = none →
        ∃ q', Run chain ends horizon q₁ q' ∧ t.Alike chain q') :
      ∃ q', Run chain ends horizon q q' ∧ t.Alike chain q' := by
    obtain ⟨q₁, run₁, h₁, waits₁⟩ := h.settle waits
    obtain ⟨q', run', h'⟩ := taken q₁ h₁ waits₁
    exact ⟨q', run₁.trans run', h'⟩
  cases step with
  | order waits orders => exact settled waits fun q₁ h₁ waits₁ => h₁.order waits₁ orders
  | join returns => exact h.join returns
  | @stop a before after pass cancelled agents alive =>
    exact settled pass.waits fun q₁ h₁ waits₁ =>
      h₁.stop (h₁.mayPass pass waits₁) cancelled agents alive
  | @act a before after delay reply pass running agents due own =>
    refine settled pass.waits fun q₁ h₁ waits₁ => ?_
    by_cases hc : a.observer.chain = chain
    · have hq := h₁.agents
      rw [agents, filter_observes_of_observes (decide_eq_true hc)] at hq
      refine ⟨_, .single (.act delay reply (h₁.mayPass pass waits₁) (h₁.cancelled ▸ running) hq.symm
        (h₁.now ▸ due) ?_), h₁.act running hc delay reply⟩
      rw [← h₁.now, ← h₁.ends]
      exact own
    · exact ⟨q₁, .refl, h₁.act_of_ne hc agents delay reply⟩
  | clock pass idle =>
    exact settled pass.waits fun q₁ h₁ waits₁ => h₁.clock pass (h₁.mayPass pass waits₁) idle

/-- A run shows on a chain as a run of what there is for the chain. -/
theorem Run.project {s t q : Operation σ} (run : Run chain ends horizon s t)
    (h : s.Alike chain q) : ∃ q', Run chain ends horizon q q' ∧ t.Alike chain q' := by
  induction run with
  | refl => exact ⟨q, .refl, h⟩
  | tail _ step ih =>
    obtain ⟨u, run, hu⟩ := ih
    obtain ⟨u', run', hu'⟩ := step.project hu
    exact ⟨u', run.trans run', hu'⟩

/-! ## Conduct -/

/-- What there is to see of a chain. -/
structure Conduct where
  /-- The calls of its endpoint and, for it, of the ledger, with their times. -/
  calls : List Rehearsal.Call
  watermark : Option UInt64
  health : List HealthReport

/-- What there is to see of a chain of a supervisor at work. -/
def conduct (s : Operation σ) (chain : ChainId) : Conduct where
  calls := s.calls.filter (·.chain = chain)
  watermark := s.supervisor.shared.watermark? chain
  health := s.supervisor.health.filter (·.chain = chain)

theorem health_filter (s : Supervisor) (chain : ChainId) :
    s.health.filter (·.chain = chain) =
      (s.agents.filter (Agent.observes chain)).map
        fun a => a.observer.health a.progress s.shared :=
  List.filter_map

theorem Alike.conduct_eq {s q : Operation σ} (h : s.Alike chain q) :
    s.conduct chain = q.conduct chain := by
  have calls : s.calls.filter (·.chain = chain) = q.calls.filter (·.chain = chain) := by
    rw [← h.calls, List.filter_filter]
    simp only [Bool.and_self]
  have agents : s.supervisor.agents.filter (Agent.observes chain) =
      q.supervisor.agents.filter (Agent.observes chain) := by
    rw [← h.agents, List.filter_filter]
    simp only [Bool.and_self]
  have health : s.supervisor.health.filter (·.chain = chain) =
      q.supervisor.health.filter (·.chain = chain) := by
    rw [health_filter, health_filter, agents]
    refine List.map_congr_left ?_
    intro a ha
    obtain rfl : a.observer.chain = chain := of_decide_eq_true (List.mem_filter.1 ha).2
    simp only [Observer.health, h.watermark]
  rw [conduct, conduct, calls, h.watermark, health]

/-! ## The beginning -/

theorem foldl_spawn (observers : List Observer) (s : Supervisor) (now : Nat) :
    observers.foldl (fun s o => s.spawn o now) s =
      { s with agents := s.agents ++ observers.map (Agent.spawn · now) } := by
  induction observers generalizing s with
  | nil => simp
  | cons o observers ih =>
    rw [List.foldl_cons, ih]
    simp only [Supervisor.spawn, List.map_cons, List.append_assoc, List.singleton_append]

/-- A supervisor begins with an agent for each observer. -/
theorem supervisor_start (timeout : Nat) (observers : List Observer) (r : σ)
    (orders : List (Nat × Order)) : (start timeout observers r orders).supervisor =
      { Supervisor.empty timeout with agents := observers.map (Agent.spawn · 0) } :=
  foldl_spawn ..

/-- Of observers of different chains, one observes the chain of one of them. -/
theorem filter_chain_eq_singleton {observers : List Observer}
    (distinct : (observers.map (·.chain)).Nodup) {o : Observer} (mem : o ∈ observers) :
    observers.filter (·.chain = o.chain) = [o] := by
  induction observers with
  | nil => cases mem
  | cons p observers ih =>
    rw [List.map_cons, List.nodup_cons] at distinct
    rcases List.mem_cons.1 mem with rfl | mem
    · simp only [List.filter_cons, decide_true, if_true, List.cons.injEq, true_and,
        List.filter_eq_nil_iff]
      intro p hp hc
      exact distinct.1 (of_decide_eq_true hc ▸ List.mem_map_of_mem hp)
    · have hne : p.chain ≠ o.chain := fun hc => distinct.1 (hc ▸ List.mem_map_of_mem mem)
      rw [List.filter_cons_of_neg (by simpa using hne)]
      exact ih distinct.2 mem

/-- A supervisor begins alike for a chain with other observers and without them. -/
theorem start_alike {observers : List Observer} (distinct : (observers.map (·.chain)).Nodup)
    {o : Observer} (mem : o ∈ observers) {timeout timeout' : Nat} (r : σ)
    {orders : List (Nat × Order)}
    (timeouts : (∃ time, (time, Order.shutdown) ∈ orders) → (timeout = 0 ↔ timeout' = 0)) :
    (start timeout observers r orders).Alike o.chain
      (start timeout' [o] r (orders.filter (·.2.concerns o.chain))) := by
  have supervisor := supervisor_start timeout observers r orders
  have hc : Agent.observes o.chain ∘ (Agent.spawn · 0) = fun p => decide (p.chain = o.chain) := rfl
  have settled : (start timeout observers r orders).supervisor.IsSettled := by
    rw [supervisor]
    exact Supervisor.isSettled_of_running rfl
  refine ⟨rfl, ?_, .inr ⟨Supervisor.isSettled_of_running rfl, .inl settled⟩, ?_, ?_, ?_, rfl, rfl,
    rfl⟩
  · rw [supervisor]
    rfl
  · rw [supervisor]
    exact timeouts
  · rw [supervisor, List.filter_map, hc, filter_chain_eq_singleton distinct mem]
    rfl
  · rw [supervisor]
    rfl

/-! ## Isolation -/

/-- A complete run shows on a chain as a complete run of what there is for the chain. -/
theorem Run.project_complete {s t q : Operation σ} (run : Run chain ends horizon s t)
    (complete : t.IsComplete horizon) (h : s.Alike chain q) :
    ∃ q', Run chain ends horizon q q' ∧ q'.IsComplete horizon ∧ t.Alike chain q' := by
  obtain ⟨q₁, run₁, h₁⟩ := run.project h
  obtain ⟨q', run', h', waits⟩ := h₁.settle complete.waits
  exact ⟨q', run₁.trans run', h'.isComplete complete waits, h'⟩

/-- **Chains are isolated.** Take two supervisors, each with observers of different chains, that
both observe a chain in the same way; let the chain get the same answers at the same times, the
identifiers of accepted submissions aside, and the same orders that concern it, and let all else
differ and interleave in any way. When the time is up, both show the same conduct of the chain, and
so does the observer of the chain alone, which has a run to that time. A shutdown without time to
wait aborts an agent where it stands, and this shows; so if one is ordered, it has time in all of
them or in none. -/
theorem isolation {ends : Ends σ} {r : σ} {horizon : Nat} {o : Observer}
    {observers₁ observers₂ : List Observer} {orders₁ orders₂ : List (Nat × Order)}
    {timeout₁ timeout₂ : Nat} (timeout : Nat) {t₁ t₂ : Operation σ}
    (distinct₁ : (observers₁.map (·.chain)).Nodup) (distinct₂ : (observers₂.map (·.chain)).Nodup)
    (mem₁ : o ∈ observers₁) (mem₂ : o ∈ observers₂)
    (agree : orders₁.filter (·.2.concerns o.chain) = orders₂.filter (·.2.concerns o.chain))
    (timeouts : (∃ time, (time, Order.shutdown) ∈ orders₁) →
      (timeout₁ = 0 ↔ timeout = 0) ∧ (timeout₂ = 0 ↔ timeout = 0))
    (run₁ : Run o.chain ends horizon (start timeout₁ observers₁ r orders₁) t₁)
    (run₂ : Run o.chain ends horizon (start timeout₂ observers₂ r orders₂) t₂)
    (complete₁ : t₁.IsComplete horizon) (complete₂ : t₂.IsComplete horizon) :
    t₁.conduct o.chain = t₂.conduct o.chain ∧
      (∃ t, Run o.chain ends horizon
          (start timeout [o] r (orders₁.filter (·.2.concerns o.chain))) t ∧ t.IsComplete horizon) ∧
      ∀ t, Run o.chain ends horizon
          (start timeout [o] r (orders₁.filter (·.2.concerns o.chain))) t →
        t.IsComplete horizon → t.conduct o.chain = t₁.conduct o.chain := by
  have timeouts₂ : (∃ time, (time, Order.shutdown) ∈ orders₂) → (timeout₂ = 0 ↔ timeout = 0) := by
    rintro ⟨time, hmem⟩
    have hboth : (time, Order.shutdown) ∈ orders₁.filter (·.2.concerns o.chain) := by
      rw [agree]
      exact List.mem_filter.2 ⟨hmem, rfl⟩
    exact (timeouts ⟨time, (List.mem_filter.1 hboth).1⟩).2
  obtain ⟨q₁, alone₁, whole₁, alike₁⟩ := run₁.project_complete complete₁
    (start_alike distinct₁ mem₁ r fun h => (timeouts h).1)
  obtain ⟨q₂, alone₂, whole₂, alike₂⟩ := run₂.project_complete complete₂
    (start_alike distinct₂ mem₂ r timeouts₂)
  rw [← agree] at alone₂
  have unique {t : Operation σ}
      (run : Run o.chain ends horizon
        (start timeout [o] r (orders₁.filter (·.2.concerns o.chain))) t)
      (complete : t.IsComplete horizon) : q₁ = t :=
    Run.unique rfl alone₁ whole₁ run complete
  refine ⟨?_, ⟨q₁, alone₁, whole₁⟩, ?_⟩
  · obtain rfl := unique alone₂ whole₂
    rw [alike₁.conduct_eq, alike₂.conduct_eq]
  · intro t run complete
    obtain rfl := unique run complete
    exact alike₁.conduct_eq.symm

/-- An observer beside the sample observer, which ticks more often. -/
def busy : Observer := { Observer.sample .hold with chain := ⟨"busy"⟩, pollInterval := 7 }

/-- A rehearsal of some observers, with an endpoint and a record for the sample chain only. -/
def rehearsalOf (observers : List Observer) : Rehearsal where
  now := 0
  supervisor := observers.foldl (fun s o => s.spawn o 0) (.empty 30000)
  world := ⟨[(⟨"sample"⟩, .at_ 137)], .knowing [(⟨"sample"⟩, 100)] 5, []⟩

theorem isolation_beside_busy :
    (((rehearsalOf [.sample .skip]).sleep 6000).operation default).conduct ⟨"sample"⟩ =
      (((rehearsalOf [busy, .sample .skip]).sleep 6000).operation default).conduct ⟨"sample"⟩ := by
  have distinct₁ : ([Observer.sample .skip].map (·.chain)).Nodup := by decide
  have distinct₂ : ([busy, .sample .skip].map (·.chain)).Nodup := by decide
  obtain ⟨u₁, run₁, complete₁, -⟩ :=
    (rehearsalOf [.sample .skip]).run_sleep (Supervisor.isSettled_of_running rfl) 6000
      (.refl ⟨"sample"⟩ _)
  obtain ⟨u₂, run₂, complete₂, -⟩ :=
    (rehearsalOf [busy, .sample .skip]).run_sleep (Supervisor.isSettled_of_running rfl) 6000
      (.refl ⟨"sample"⟩ _)
  exact (isolation 0 distinct₁ distinct₂ List.mem_cons_self
    (List.mem_cons_of_mem _ List.mem_cons_self) rfl (by simp) run₁ run₂ complete₁ complete₂).1

end Operation

/-! ## Rehearsals -/

namespace Rehearsal

/-- Two rehearsals have the same for a chain, which has one agent. -/
structure Alike (chain : ChainId) (r r' : Rehearsal) : Prop where
  now : r.now = r'.now
  cancelled : r.supervisor.cancelled = r'.supervisor.cancelled
  settled : r.supervisor.IsSettled
  settled' : r'.supervisor.IsSettled
  agent : ∃ a : Agent, r.supervisor.agents.filter (Agent.observes chain) = [a]
  agents : r.supervisor.agents.filter (Agent.observes chain) =
    r'.supervisor.agents.filter (Agent.observes chain)
  watermark : r.supervisor.shared.watermark? chain = r'.supervisor.shared.watermark? chain
  world : r.world.Agrees chain r'.world
  calls : r.world.calls.filter (·.chain = chain) = r'.world.calls.filter (·.chain = chain)

/-- **Rehearsals that agree on a chain go on to agree on it** while time passes, whatever else they
hold. -/
theorem Alike.sleep {chain : ChainId} {r r' : Rehearsal} (h : r.Alike chain r') (ms : Nat) :
    (r.sleep ms).Alike chain (r'.sleep ms) := by
  -- what there is for the chain
  let q : Operation World :=
    ⟨r.now, { r.supervisor with agents := r.supervisor.agents.filter (Agent.observes chain) },
      r.world, r.world.calls.filter (·.chain = chain), []⟩
  have alike : (r.operation r.world).Alike chain q :=
    ⟨rfl, rfl, .inr ⟨h.settled, .inl h.settled⟩, nofun, rfl, rfl, rfl, rfl, rfl⟩
  have alike' : (r'.operation r.world).Alike chain q :=
    ⟨h.now.symm, h.cancelled.symm, .inr ⟨h.settled, .inl h.settled'⟩, nofun, h.agents.symm,
      h.watermark.symm, rfl, h.calls.symm, rfl⟩
  have alone : q.supervisor.chains = [chain] := by
    obtain ⟨a, ha⟩ := h.agent
    have hc : a.observes chain = true := by
      have hm : a ∈ r.supervisor.agents.filter (Agent.observes chain) := by simp [ha]
      exact (List.mem_filter.1 hm).2
    have hc : a.observer.chain = chain := of_decide_eq_true hc
    simp [q, Supervisor.chains, ha, hc]
  obtain ⟨u, run, complete, agrees⟩ := r.run_sleep h.settled ms (.refl chain r.world)
  obtain ⟨u', run', complete', agrees'⟩ := r'.run_sleep h.settled' ms h.world.symm
  rw [← h.now] at run' complete'
  obtain ⟨p, only, whole, hp⟩ := run.project_complete complete alike
  obtain ⟨p', only', whole', hp'⟩ := run'.project_complete complete' alike'
  obtain rfl := only.unique alone whole only' whole'
  have hu : u = u' := hp.ends.trans hp'.ends.symm
  refine ⟨hp.now.trans hp'.now.symm, hp.cancelled.trans hp'.cancelled.symm,
    isSettled_sleep h.settled ms, isSettled_sleep h.settled' ms, ?_,
    hp.agents.trans hp'.agents.symm, hp.watermark.trans hp'.watermark.symm,
    agrees.trans (hu ▸ agrees'.symm), hp.calls.trans hp'.calls.symm⟩
  have chains := only.chains_eq.trans alone
  obtain ⟨a, ha, -⟩ := List.map_eq_singleton_iff.1 chains
  exact ⟨a, hp.agents.trans ha⟩

end Rehearsal

end BridgeWatch
