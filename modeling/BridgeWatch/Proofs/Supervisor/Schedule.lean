import BridgeWatch.Proofs.Observer.Separation
import BridgeWatch.Rehearsal.World
import BridgeWatch.Supervisor.Basic
import Mathlib.Logic.Relation

/-!
# Schedules of a supervisor

A supervisor at work on a virtual clock, with the operator's orders at given times. Agents act one
step at a time, in any order and interleaved in any way; the clock moves when no agent may act, and
orders at a time come before the agents act at that time. A shutdown that may return does so before
anything else happens.

* `Ends` are the remote ends of one chain: any state, with how long the answer to a request takes
  and what it is.
* `Operation.Step chain ends horizon`: a step of the schedule before the time `horizon`, in which
  the calls of `chain` are answered by `ends` and those of all other chains in any way.
* `Operation.Run`: any number of steps. `Operation.IsComplete` says that the time is up and all
  orders are carried out.
* `Supervisor.conclude?_eq_some`: what it means that a shutdown returns.
* `Operation.Run.forall_agents`: what acting and stopping (`Agent.Keeps`) and being aborted keep of
  an agent holds of all agents throughout.
* `Operation.run_stopAll`: agents that were told to stop can all do so while time may pass.
* `Operation.Run.unique`: a supervisor of one observer has one complete run only.
-/

namespace BridgeWatch

/-- The remote ends of one chain. -/
structure Ends (σ : Type) where
  /-- How many milliseconds the answer takes to a request that is made at a given time, and what
  becomes of the ends. -/
  accept : Nat → Request → σ → Nat × σ
  /-- The answer to a request that arrives at a given time, and what becomes of the ends. -/
  answer : Nat → (q : Request) → σ → q.Reply × σ

/-- An operator's order. -/
inductive Order
  | resync (chain : ChainId) (height : UInt64)
  | cancel
  | shutdown

namespace Order

/-- Carries an order out at a given time. A shutdown is begun. -/
def apply (now : Nat) : Order → Supervisor → Supervisor
  | resync chain height, s => (s.resync chain height).2
  | cancel, s => s.cancel
  | shutdown, s => s.beginShutdown now

/-- The order is for a chain, or for all chains. -/
def concerns (chain : ChainId) : Order → Bool
  | resync c _ => c = chain
  | cancel | shutdown => true

end Order

namespace Agent

/-- The request that an agent waits for. -/
def pending? (a : Agent) : Option Request :=
  match a.activity with
  | .ticking _ p _ => some (p.request a.observer)
  | _ => none

/-- A step of an agent that is due: it wakes up, or its answer arrives. -/
def act (a : Agent) (now : Nat) (delay : Request → Nat) (reply : (q : Request) → q.Reply)
    (s : Shared) : Agent × Shared :=
  match a.activity with
  | .stopped _ => (a, s)
  | .sleeping deadline => a.wake now deadline (fun p => now + delay (p.request a.observer)) s
  | .ticking next p _ =>
    a.resume next (fun p => now + delay (p.request a.observer)) p (reply (p.request a.observer)) s

/-- The agent may do something at a given time: stop if it was told to, or go on if it is due. -/
def mayAct (a : Agent) (now : Nat) (cancelled : Bool) : Bool :=
  if cancelled then a.isAlive else a.isDue now

@[simp]
theorem observer_enter (a : Agent) (next : Nat) (arrival : Phase → Nat) (t : TickStep) :
    (a.enter next arrival t).1.observer = a.observer := by
  cases t <;> rfl

@[simp]
theorem observer_cancel (a : Agent) : a.cancel.observer = a.observer := by
  unfold cancel
  split
  · rfl
  · split <;> rfl

@[simp]
theorem observer_abort (a : Agent) : a.abort.observer = a.observer := by
  unfold abort
  split <;> rfl

@[simp]
theorem observer_act (a : Agent) (now : Nat) (delay : Request → Nat)
    (reply : (q : Request) → q.Reply) (s : Shared) :
    (a.act now delay reply s).1.observer = a.observer := by
  unfold act
  split
  · rfl
  · unfold wake
    split
    · rfl
    · exact observer_enter ..
  · exact observer_enter ..

theorem isAlive_eq_false_iff {a : Agent} :
    a.isAlive = false ↔ ∃ how, a.activity = .stopped how := by
  unfold isAlive due?
  cases a.activity <;> simp

theorem isAlive_cancel (a : Agent) : a.cancel.isAlive = false := by
  rw [isAlive_eq_false_iff]
  unfold cancel
  split
  · rename_i how ha
    exact ⟨how, ha⟩
  · split
    · exact ⟨_, rfl⟩
    · exact ⟨_, rfl⟩

theorem isAlive_abort (a : Agent) : a.abort.isAlive = false := by
  rw [isAlive_eq_false_iff]
  unfold abort
  split
  · rename_i how ha
    exact ⟨how, ha⟩
  · exact ⟨_, rfl⟩

theorem cancel_of_not_alive {a : Agent} (h : a.isAlive = false) : a.cancel = a := by
  obtain ⟨how, ha⟩ := isAlive_eq_false_iff.1 h
  rw [cancel, ha]

theorem abort_of_not_alive {a : Agent} (h : a.isAlive = false) : a.abort = a := by
  obtain ⟨how, ha⟩ := isAlive_eq_false_iff.1 h
  rw [abort, ha]

theorem due?_of_not_alive {a : Agent} (h : a.isAlive = false) : a.due? = none := by
  rwa [isAlive, Option.isSome_eq_false_iff, Option.isNone_iff_eq_none] at h

/-- An agent does not look at the identifiers of accepted submissions. -/
theorem act_eq_of_sameReply (a : Agent) (now : Nat) (delay : Request → Nat)
    {reply reply' : (q : Request) → q.Reply} (s : Shared)
    (h : ∀ q ∈ a.pending?, q.SameReply (reply q) (reply' q)) :
    a.act now delay reply s = a.act now delay reply' s := by
  unfold act
  split
  · rfl
  · rfl
  · rename_i next p arrival ha
    have hp : a.pending? = some (p.request a.observer) := by
      simp only [pending?, ha]
    unfold resume
    rw [a.observer.resumeTick_eq_of_sameReply _ p (h _ hp)]

/-- A property of agents that is kept when they act and when they stop. -/
structure Keeps (P : Agent → Prop) : Prop where
  act : ∀ {a : Agent} {now : Nat}, P a → a.isDue now = true →
    ∀ (delay : Request → Nat) (reply : (q : Request) → q.Reply) (s : Shared),
      P (a.act now delay reply s).1
  cancel : ∀ {a : Agent}, P a → P a.cancel

end Agent

/-! ## Shutdowns -/

namespace Supervisor

variable {s : Supervisor} {deadline now : Nat} {r : Except Fault Unit × Supervisor}

/-- What a shutdown comes to now, if one waits for the agents. -/
def conclusion? (s : Supervisor) (now : Nat) : Option (Except Fault Unit × Supervisor) :=
  match s.standing with
  | .joining deadline => s.conclude? deadline now
  | .working | .cancelled | .joined _ => none

theorem isBusy_eq_false_iff : s.isBusy = false ↔ ∀ a ∈ s.agents, a.isAlive = false := by
  simp only [isBusy, List.any_eq_false, Bool.not_eq_true]

theorem isBusy_of_mem {a : Agent} (ha : a ∈ s.agents) (alive : a.isAlive = true) :
    s.isBusy = true := List.any_eq_true.2 ⟨a, ha, alive⟩

/-- A supervisor whose shutdown has returned: no agent goes on. -/
def joined (s : Supervisor) (result : Except Fault Unit) : Supervisor :=
  { s with agents := s.agents.map Agent.abort, standing := .joined result }

theorem map_abort_of_not_busy (h : s.isBusy = false) : s.agents.map Agent.abort = s.agents := by
  rw [List.map_congr_left fun a ha => Agent.abort_of_not_alive (isBusy_eq_false_iff.1 h a ha),
    List.map_id']

/-- **A shutdown returns** well if all agents have ended, and fails at its deadline if not. -/
theorem conclude?_eq_some (h : s.conclude? deadline now = some r) :
    r.2 = s.joined r.1 ∧ (s.isBusy = false ∧ r.1 = .ok () ∨ s.isBusy = true ∧ deadline ≤ now ∧
      r.1 = .error (.internal "Shutdown timed out")) := by
  unfold conclude? at h
  split at h
  · rename_i hbusy
    cases h
    refine ⟨?_, .inl ⟨hbusy, rfl⟩⟩
    rw [joined, map_abort_of_not_busy hbusy]
  · rename_i hbusy
    split at h
    · rename_i hdeadline
      cases h
      exact ⟨rfl, .inr ⟨by simpa using hbusy, hdeadline, rfl⟩⟩
    · cases h

theorem conclude?_eq_none_iff :
    s.conclude? deadline now = none ↔ s.isBusy = true ∧ now < deadline := by
  unfold conclude?
  cases s.isBusy with
  | false => simp
  | true =>
    rw [if_neg (by decide)]
    split
    · simp; omega
    · simp; omega

/-- A shutdown that returns was waiting. -/
theorem conclusion?_eq_some (h : s.conclusion? now = some r) :
    ∃ deadline, s.standing = .joining deadline ∧ s.conclude? deadline now = some r := by
  unfold conclusion? at h
  split at h
  · rename_i deadline hs
    exact ⟨deadline, hs, h⟩
  · cases h
  · cases h
  · cases h

theorem eq_joined_of_conclusion? (h : s.conclusion? now = some r) : r.2 = s.joined r.1 := by
  obtain ⟨deadline, -, hr⟩ := conclusion?_eq_some h
  exact (conclude?_eq_some hr).1

/-- No shutdown returns: either none waits, or some agent has not ended and there is time left. -/
theorem conclusion?_eq_none_iff : s.conclusion? now = none ↔
    ∀ deadline, s.standing = .joining deadline → s.isBusy = true ∧ now < deadline := by
  unfold conclusion?
  cases hs : s.standing with
  | working | cancelled | joined => simp
  | joining deadline => simp [conclude?_eq_none_iff]

/-- No shutdown waits for the agents. -/
def IsSettled (s : Supervisor) : Prop := ∀ deadline, s.standing ≠ .joining deadline

theorem IsSettled.conclusion? (h : s.IsSettled) (now : Nat) : s.conclusion? now = none :=
  conclusion?_eq_none_iff.2 fun deadline hs => absurd hs (h deadline)

theorem cancelled_eq_false_iff : s.cancelled = false ↔ s.standing = .working := by
  unfold cancelled
  cases s.standing <;> simp

theorem isSettled_of_running (running : s.cancelled = false) : s.IsSettled := by
  intro deadline hs
  cases (cancelled_eq_false_iff.1 running).symm.trans hs

theorem isSettled_joined (s : Supervisor) (result : Except Fault Unit) :
    (s.joined result).IsSettled := by
  intro deadline hs
  cases hs

theorem isBusy_joined (s : Supervisor) (result : Except Fault Unit) :
    (s.joined result).isBusy = false :=
  isBusy_eq_false_iff.2 (List.forall_mem_map.2 fun a _ => a.isAlive_abort)

theorem IsSettled.cancel (h : s.IsSettled) : s.cancel.IsSettled := by
  intro deadline hs
  unfold Supervisor.cancel at hs
  split at hs
  · cases hs
  · exact h deadline hs
  · exact h deadline hs
  · exact h deadline hs

theorem cancelled_of_joining (h : s.standing = .joining deadline) : s.cancelled = true := by
  rw [cancelled, h]

theorem cancel_of_running (h : s.cancelled = false) :
    s.cancel = { s with standing := .cancelled } := by
  rw [cancel, cancelled_eq_false_iff.1 h]

/-- Agents are told to stop once. -/
theorem cancel_of_cancelled (h : s.cancelled = true) : s.cancel = s := by
  unfold cancel
  split
  · rename_i hs
    rw [cancelled, hs] at h
    cases h
  · rfl
  · rfl
  · rfl

@[simp]
theorem cancelled_cancel (s : Supervisor) : s.cancel.cancelled = true := by
  unfold cancel
  cases hs : s.standing with
  | working => rfl
  | cancelled | joining | joined => simp [cancelled, hs]

theorem agents_cancel (s : Supervisor) : s.cancel.agents = s.agents := by
  unfold cancel
  split <;> rfl

theorem isBusy_cancel (s : Supervisor) : s.cancel.isBusy = s.isBusy := by
  rw [isBusy, agents_cancel, isBusy]

theorem shutdownTimeout_cancel (s : Supervisor) : s.cancel.shutdownTimeout = s.shutdownTimeout := by
  unfold cancel
  split <;> rfl

theorem shared_cancel (s : Supervisor) : s.cancel.shared = s.shared := by
  unfold cancel
  split <;> rfl

end Supervisor

namespace Ends

variable {σ : Type}

/-- The ends after the answer to the request that was waited for, if any was. -/
def answered (ends : Ends σ) (now : Nat) (pending : Option Request) (r : σ) : σ :=
  match pending with
  | some q => (ends.answer now q r).2
  | none => r

/-- The ends after the next request, if any is made. -/
def accepted (ends : Ends σ) (now : Nat) (pending : Option Request) (r : σ) : σ :=
  match pending with
  | some q => (ends.accept now q r).2
  | none => r

/-- Delays and answers are those of the ends, the identifiers of accepted submissions aside. -/
structure Gives (ends : Ends σ) (now : Nat) (pending : Option Request) (r : σ)
    (delay : Request → Nat) (reply : (q : Request) → q.Reply) : Prop where
  reply : ∀ q ∈ pending, q.SameReply (reply q) (ends.answer now q r).1
  delay : ∀ q, delay q = (ends.accept now q (ends.answered now pending r)).1

end Ends

/-- A supervisor at work: the time, the remote ends of one of its chains, the calls of all chains so
far, and the orders to come with their times. -/
structure Operation (σ : Type) where
  now : Nat
  supervisor : Supervisor
  ends : σ
  calls : List Rehearsal.Call
  orders : List (Nat × Order)

namespace Operation

variable {σ : Type}

/-- A supervisor that sets some observers to work at time zero. -/
def start (shutdownTimeout : Nat) (observers : List Observer) (ends : σ)
    (orders : List (Nat × Order)) : Operation σ :=
  ⟨0, observers.foldl (fun s o => s.spawn o 0) (.empty shutdownTimeout), ends, [], orders⟩

/-- Time may pass: it is not up, no shutdown is about to return, and there is no order for now. -/
structure MayPass (s : Operation σ) (horizon : Nat) : Prop where
  now_lt : s.now < horizon
  waits : s.supervisor.conclusion? s.now = none
  orders : ∀ x ∈ s.orders, s.now < x.1

theorem mayPass_of_orders_nil {s : Operation σ} {horizon : Nat} (now : s.now < horizon)
    (settled : s.supervisor.IsSettled) (orders : s.orders = []) : s.MayPass horizon :=
  ⟨now, settled.conclusion? s.now, fun _ hx => (List.not_mem_nil (orders ▸ hx)).elim⟩

/-- The supervisor with other agents. -/
def withAgents (s : Operation σ) (agents : List Agent) : Operation σ :=
  { s with supervisor := { s.supervisor with agents := agents } }

/-- What becomes of a supervisor when the agent `a` between others acts. -/
def acted (s : Operation σ) (chain : ChainId) (ends : Ends σ) (before : List Agent) (a : Agent)
    (after : List Agent) (delay : Request → Nat) (reply : (q : Request) → q.Reply) :
    Operation σ :=
  let (b, shared) := a.act s.now delay reply s.supervisor.shared
  { s with
    supervisor := { s.supervisor with agents := before ++ b :: after, shared := shared }
    ends :=
      if a.observer.chain = chain then
        ends.accepted s.now b.pending? (ends.answered s.now a.pending? s.ends)
      else s.ends
    calls := s.calls ++ (b.pending?.map fun q => ⟨s.now, a.observer.chain, q⟩).toList }

/-- A step of a supervisor at work. -/
inductive Step (chain : ChainId) (ends : Ends σ) (horizon : Nat) : Operation σ → Operation σ → Prop
  /-- The next order is carried out. -/
  | order {s : Operation σ} {x : Order} {rest : List (Nat × Order)}
      (waits : s.supervisor.conclusion? s.now = none) (orders : s.orders = (s.now, x) :: rest) :
      Step chain ends horizon s { s with supervisor := x.apply s.now s.supervisor, orders := rest }
  /-- A shutdown returns. -/
  | join {s : Operation σ} {r : Except Fault Unit × Supervisor}
      (returns : s.supervisor.conclusion? s.now = some r) :
      Step chain ends horizon s { s with supervisor := r.2 }
  /-- An agent stops that was told to. -/
  | stop {s : Operation σ} {a : Agent} {before after : List Agent} (pass : s.MayPass horizon)
      (cancelled : s.supervisor.cancelled = true)
      (agents : s.supervisor.agents = before ++ a :: after) (alive : a.isAlive = true) :
      Step chain ends horizon s (s.withAgents (before ++ a.cancel :: after))
  /-- An agent acts that is due. -/
  | act {s : Operation σ} {a : Agent} {before after : List Agent} (delay : Request → Nat)
      (reply : (q : Request) → q.Reply) (pass : s.MayPass horizon)
      (running : s.supervisor.cancelled = false)
      (agents : s.supervisor.agents = before ++ a :: after) (due : a.isDue s.now = true)
      (own : a.observer.chain = chain → ends.Gives s.now a.pending? s.ends delay reply) :
      Step chain ends horizon s (s.acted chain ends before a after delay reply)
  /-- The clock moves on, for no agent may act. -/
  | clock {s : Operation σ} (pass : s.MayPass horizon)
      (idle : ∀ a ∈ s.supervisor.agents, a.mayAct s.now s.supervisor.cancelled = false) :
      Step chain ends horizon s { s with now := s.now + 1 }

/-- Any number of steps. -/
abbrev Run (chain : ChainId) (ends : Ends σ) (horizon : Nat) : Operation σ → Operation σ → Prop :=
  Relation.ReflTransGen (Step chain ends horizon)

/-- The time is up, no shutdown is about to return, and all orders are carried out. -/
structure IsComplete (s : Operation σ) (horizon : Nat) : Prop where
  now : s.now = horizon
  waits : s.supervisor.conclusion? s.now = none
  orders : s.orders = []

variable {chain : ChainId} {ends : Ends σ} {horizon : Nat}

theorem step_joined {s : Operation σ} {r : Except Fault Unit × Supervisor}
    (returns : s.supervisor.conclusion? s.now = some r) :
    Step chain ends horizon s { s with supervisor := s.supervisor.joined r.1 } :=
  Supervisor.eq_joined_of_conclusion? returns ▸ .join returns

/-- Nothing happens any more when the time is up. -/
theorem Step.not_isComplete {s t : Operation σ} (h : Step chain ends horizon s t) :
    ¬s.IsComplete horizon := by
  intro hc
  have hpass : ¬s.MayPass horizon := fun hp => Nat.lt_irrefl _ (hc.now ▸ hp.now_lt)
  cases h with
  | order waits orders => cases hc.orders.symm.trans orders
  | join returns => cases hc.waits.symm.trans returns
  | stop pass | act _ _ pass | clock pass => exact hpass pass

/-! ## What holds of every agent -/

/-- Orders leave the agents as they are. -/
@[simp]
theorem agents_apply (x : Order) (now : Nat) (s : Supervisor) :
    (x.apply now s).agents = s.agents := by
  cases x with
  | resync chain height => rfl
  | cancel => exact s.agents_cancel
  | shutdown => rfl

/-- A step keeps of all agents what acting and stopping keep of one, and being aborted if a shutdown
returns. -/
theorem Step.forall_agents {P : Agent → Prop} (hP : Agent.Keeps P) {s t : Operation σ}
    (h : Step chain ends horizon s t) (hs : ∀ a ∈ s.supervisor.agents, P a)
    (abort : s.supervisor.conclusion? s.now ≠ none →
      ∀ a ∈ s.supervisor.agents, P a → P a.abort) :
    ∀ a ∈ t.supervisor.agents, P a := by
  -- one agent between others is replaced
  have replaced {before after : List Agent} {a b : Agent}
      (agents : s.supervisor.agents = before ++ a :: after) (hb : P b) :
      ∀ c ∈ before ++ b :: after, P c := by
    rw [agents, List.forall_mem_append, List.forall_mem_cons] at hs
    rw [List.forall_mem_append, List.forall_mem_cons]
    exact ⟨hs.1, hb, hs.2.2⟩
  have mem {before after : List Agent} {a : Agent}
      (agents : s.supervisor.agents = before ++ a :: after) : a ∈ s.supervisor.agents :=
    agents ▸ List.mem_append_right _ List.mem_cons_self
  cases h with
  | @order x rest waits orders => exact (agents_apply x s.now s.supervisor).symm ▸ hs
  | join returns =>
    rw [Supervisor.eq_joined_of_conclusion? returns, Supervisor.joined, List.forall_mem_map]
    exact fun a ha => abort (by simp [returns]) a ha (hs a ha)
  | stop pass cancelled agents alive => exact replaced agents (hP.cancel (hs _ (mem agents)))
  | act delay reply pass running agents due own =>
    exact replaced agents (hP.act (hs _ (mem agents)) due delay reply _)
  | clock => exact hs

theorem Run.forall_agents {P : Agent → Prop} (hP : Agent.Keeps P)
    (abort : ∀ {a : Agent}, P a → P a.abort) {s t : Operation σ}
    (run : Run chain ends horizon s t) (hs : ∀ a ∈ s.supervisor.agents, P a) :
    ∀ a ∈ t.supervisor.agents, P a := by
  induction run with
  | refl => exact hs
  | tail _ step ih => exact step.forall_agents hP ih fun _ _ _ => abort

/-! ## Agents that were told to stop -/

/-- While time may pass and an agent has not ended, time may pass whatever the others do. -/
theorem MayPass.withAgents {s : Operation σ} (pass : s.MayPass horizon) {agents : List Agent}
    {a : Agent} (ha : a ∈ agents) (alive : a.isAlive = true) :
    (s.withAgents agents).MayPass horizon := by
  refine ⟨pass.now_lt, Supervisor.conclusion?_eq_none_iff.2 fun deadline hs => ?_, pass.orders⟩
  exact ⟨Supervisor.isBusy_of_mem ha alive,
    (Supervisor.conclusion?_eq_none_iff.1 pass.waits deadline hs).2⟩

/-- Agents that were told to stop do so one after the other. -/
theorem run_stopAll {s : Operation σ} (pass : s.MayPass horizon)
    (cancelled : s.supervisor.cancelled = true) (before agents : List Agent) :
    Run chain ends horizon (s.withAgents (before ++ agents))
      (s.withAgents (before ++ agents.map Agent.cancel)) := by
  induction agents generalizing before with
  | nil => exact .refl
  | cons a agents ih =>
    have rest := ih (before ++ [a.cancel])
    rw [List.append_assoc, List.append_assoc] at rest
    cases alive : a.isAlive with
    | true =>
      have ha : a ∈ before ++ a :: agents := List.mem_append_right before List.mem_cons_self
      exact .head (.stop (pass.withAgents ha alive) cancelled rfl alive) rest
    | false =>
      rw [Agent.cancel_of_not_alive alive] at rest
      rw [List.map_cons, Agent.cancel_of_not_alive alive]
      exact rest

/-! ## One observer alone -/

/-- Steps add no agents and drop none. -/
theorem Step.chains_eq {s t : Operation σ} (h : Step chain ends horizon s t) :
    t.supervisor.chains = s.supervisor.chains := by
  cases h with
  | order => simp [Supervisor.chains]
  | join returns =>
    simp [Supervisor.eq_joined_of_conclusion? returns, Supervisor.chains, Supervisor.joined]
  | stop pass cancelled agents alive => simp [Supervisor.chains, withAgents, agents]
  | act delay reply pass running agents due own => simp [Supervisor.chains, acted, agents]
  | clock pass idle => rfl

theorem Run.chains_eq {s t : Operation σ} (h : Run chain ends horizon s t) :
    t.supervisor.chains = s.supervisor.chains := by
  induction h with
  | refl => rfl
  | tail _ step ih => exact step.chains_eq.trans ih

/-- The only agent of a chain is the one that acts. -/
theorem agents_of_chains_eq {s : Operation σ} (h : s.supervisor.chains = [chain])
    {before after : List Agent} {a : Agent} (agents : s.supervisor.agents = before ++ a :: after) :
    before = [] ∧ after = [] ∧ a.observer.chain = chain := by
  rw [Supervisor.chains, agents, List.map_append, List.map_cons, List.append_eq_singleton_iff] at h
  rcases h with ⟨hb, ha⟩ | ⟨-, ha⟩
  · rw [List.cons.injEq] at ha
    exact ⟨List.map_eq_nil_iff.1 hb, List.map_eq_nil_iff.1 ha.2, ha.1⟩
  · cases ha

/-- An agent that stops may act. -/
theorem mayAct_of_alive {a : Agent} {now : Nat} {cancelled : Bool} (hc : cancelled = true)
    (alive : a.isAlive = true) : a.mayAct now cancelled = true := by
  rw [Agent.mayAct, if_pos hc, alive]

/-- An agent that is due may act. -/
theorem mayAct_of_due {a : Agent} {now : Nat} {cancelled : Bool} (hc : cancelled = false)
    (due : a.isDue now = true) : a.mayAct now cancelled = true := by
  rw [Agent.mayAct, hc, if_neg Bool.false_ne_true, due]

/-- No time passes before an order for now is carried out. -/
theorem MayPass.false_of_order {s : Operation σ} (pass : s.MayPass horizon) {x : Order}
    {rest : List (Nat × Order)} (orders : s.orders = (s.now, x) :: rest) : False :=
  Nat.lt_irrefl _ (pass.orders (s.now, x) (orders ▸ List.mem_cons_self))

/-- The clock does not move on while a shutdown waits. -/
theorem MayPass.isSettled {s : Operation σ} (pass : s.MayPass horizon)
    (idle : ∀ a ∈ s.supervisor.agents, a.mayAct s.now s.supervisor.cancelled = false) :
    s.supervisor.IsSettled := by
  intro deadline hs
  have told := Supervisor.cancelled_of_joining hs
  obtain ⟨hbusy, -⟩ := Supervisor.conclusion?_eq_none_iff.1 pass.waits deadline hs
  obtain ⟨a, ha, alive⟩ := List.any_eq_true.1 hbusy
  have hidle := idle a ha
  rw [Agent.mayAct, if_pos told, alive] at hidle
  cases hidle

/-- The clock does not move on while an agent may act. -/
theorem false_of_idle {s : Operation σ} {before after : List Agent} {a : Agent}
    (agents : s.supervisor.agents = before ++ a :: after)
    (idle : ∀ a ∈ s.supervisor.agents, a.mayAct s.now s.supervisor.cancelled = false)
    (may : a.mayAct s.now s.supervisor.cancelled = true) : False := by
  have hi := idle a (agents ▸ List.mem_append_right _ List.mem_cons_self)
  rw [may] at hi
  cases hi

/-- **An observer alone has no choice**: each state has one next state at most. -/
theorem Step.unique {s t t' : Operation σ} (alone : s.supervisor.chains = [chain])
    (h : Step chain ends horizon s t) (h' : Step chain ends horizon s t') : t = t' := by
  cases h with
  | order waits orders =>
    cases h' with
    | order _ orders' =>
      cases orders.symm.trans orders'
      rfl
    | join returns => cases waits.symm.trans returns
    | stop pass | act _ _ pass | clock pass => exact (pass.false_of_order orders).elim
  | join returns =>
    cases h' with
    | join returns' =>
      cases returns.symm.trans returns'
      rfl
    | order waits => cases waits.symm.trans returns
    | stop pass | act _ _ pass | clock pass => cases pass.waits.symm.trans returns
  | @stop a before after pass cancelled agents alive =>
    cases h' with
    | order _ orders => exact (pass.false_of_order orders).elim
    | join returns => cases pass.waits.symm.trans returns
    | stop _ _ agents' _ =>
      obtain ⟨rfl, rfl, -⟩ := agents_of_chains_eq alone agents
      obtain ⟨rfl, rfl, -⟩ := agents_of_chains_eq alone agents'
      cases agents.symm.trans agents'
      rfl
    | act _ _ _ running => cases running.symm.trans cancelled
    | clock _ idle => exact (false_of_idle agents idle (mayAct_of_alive cancelled alive)).elim
  | @act a before after delay reply pass running agents due own =>
    cases h' with
    | order _ orders => exact (pass.false_of_order orders).elim
    | join returns => cases pass.waits.symm.trans returns
    | stop _ cancelled => cases running.symm.trans cancelled
    | act delay' reply' _ _ agents' _ own' =>
      obtain ⟨rfl, rfl, hc⟩ := agents_of_chains_eq alone agents
      obtain ⟨rfl, rfl, -⟩ := agents_of_chains_eq alone agents'
      cases agents.symm.trans agents'
      -- both steps are answered by the same ends, up to identifiers that nobody looks at
      obtain rfl : delay = delay' :=
        funext fun q => ((own hc).delay q).trans ((own' hc).delay q).symm
      have hact := a.act_eq_of_sameReply s.now delay s.supervisor.shared
        fun q hq => ((own hc).reply q hq).trans ((own' hc).reply q hq).symm
      simp only [acted, hact]
    | clock _ idle => exact (false_of_idle agents idle (mayAct_of_due running due)).elim
  | clock pass idle =>
    cases h' with
    | order _ orders => exact (pass.false_of_order orders).elim
    | join returns => cases pass.waits.symm.trans returns
    | stop _ cancelled agents alive =>
      exact (false_of_idle agents idle (mayAct_of_alive cancelled alive)).elim
    | act _ _ _ running agents due _ =>
      exact (false_of_idle agents idle (mayAct_of_due running due)).elim
    | clock _ _ => rfl

/-- **An observer alone has one complete run at most.** -/
theorem Run.unique {s t t' : Operation σ} (alone : s.supervisor.chains = [chain])
    (run : Run chain ends horizon s t) (complete : t.IsComplete horizon)
    (run' : Run chain ends horizon s t') (complete' : t'.IsComplete horizon) : t = t' := by
  induction run using Relation.ReflTransGen.head_induction_on with
  | refl =>
    rcases run'.cases_head with rfl | ⟨u, step, -⟩
    · rfl
    · exact absurd complete step.not_isComplete
  | head step rest ih =>
    rcases run'.cases_head with rfl | ⟨u, step', rest'⟩
    · exact absurd complete' step.not_isComplete
    · obtain rfl := step.unique alone step'
      exact ih (step.chains_eq.trans alone) rest'

end Operation

end BridgeWatch
