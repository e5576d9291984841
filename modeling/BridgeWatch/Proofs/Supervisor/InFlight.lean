import BridgeWatch.Proofs.Supervisor.Isolation

/-!
# Ticks in flight

What has become of the watermark of a chain while a tick of its agent waits, which may be dropped
there.

* `Agent.Turn`: what a step of a supervisor can do to one of its agents (`Operation.Step.turn`).
* `Order.obeyAll`: what orders do to what observers share; only an override does anything.
* `Operation.InTick`: a step after which the agent at a place is in a tick. If the agent is the one
  that acts, the step moves no watermark.
* `Operation.TickSince`: a tick in flight has begun at an earlier state, at which the agent was
  asleep; what has moved the watermark since are overrides and other observers of the chain.
* `Operation.Run.exists_tickSince`: every tick in flight has begun so.
-/

namespace BridgeWatch

/-! ## Orders and what is shared -/

namespace Order

/-- What an order does to what observers share. -/
def obey : Order → Shared → Shared
  | resync chain height, s => (s.resync chain height).2
  | cancel, s | shutdown, s => s

/-- What some orders do to what observers share, one after the other. -/
def obeyAll (xs : List (Nat × Order)) (s : Shared) : Shared := xs.foldl (fun s x => x.2.obey s) s

theorem obeyAll_append (xs ys : List (Nat × Order)) (s : Shared) :
    obeyAll (xs ++ ys) s = obeyAll ys (obeyAll xs s) := List.foldl_append

theorem shared_apply (x : Order) (now : Nat) (s : Supervisor) :
    (x.apply now s).shared = x.obey s.shared := by
  cases x with
  | resync chain height => rfl
  | cancel => exact s.shared_cancel
  | shutdown => rfl

theorem watermark?_obey_congr (x : Order) {s s' : Shared} {chain : ChainId}
    (h : s.watermark? chain = s'.watermark? chain) :
    (x.obey s).watermark? chain = (x.obey s').watermark? chain := by
  cases x with
  | resync c height =>
    show (s.watermarks.set c height).get? chain = (s'.watermarks.set c height).get? chain
    by_cases hc : chain = c
    · subst hc
      rw [WatermarkStore.get?_set_self, WatermarkStore.get?_set_self]
    · rw [WatermarkStore.get?_set_of_ne _ hc, WatermarkStore.get?_set_of_ne _ hc]
      exact h
  | cancel | shutdown => exact h

theorem watermark?_obeyAll_congr (xs : List (Nat × Order)) {s s' : Shared} {chain : ChainId}
    (h : s.watermark? chain = s'.watermark? chain) :
    (obeyAll xs s).watermark? chain = (obeyAll xs s').watermark? chain := by
  induction xs generalizing s s' with
  | nil => exact h
  | cons x xs ih => exact ih (x.2.watermark?_obey_congr h)

end Order

/-! ## One agent -/

/-- The tick is about to give the chain its first watermark. -/
def Phase.initializes : Phase → Bool
  | lookup | firstHead => true
  | head _ | fetch _ | relay .. => false

/-- A tick that goes on waiting is about to give the chain its first watermark if it was so
before. -/
theorem Observer.initializes_resumeTick {o : Observer} {v v' : View} {p p' : Phase}
    {reply : (p.request o).Reply} (h : o.resumeTick v p reply = .waiting p' v') :
    p'.initializes = p.initializes := by
  have of_stage {t : TickStep} (ht : t.stage = 0) (h : t = .waiting p' v') :
      p'.initializes = false := by
    subst h
    cases p' with
    | relay => rfl
    | lookup | firstHead | head | fetch => cases ht
  cases p with
  | lookup =>
    simp only [resumeTick] at h
    split at h
    · cases h
    · cases h
      rfl
  | firstHead =>
    simp only [resumeTick] at h
    split at h <;> cases h
  | head watermark =>
    simp only [resumeTick, afterHead] at h
    split at h
    · cases h
    · split at h
      · cases h
      · cases h
        rfl
  | fetch w =>
    simp only [resumeTick, afterFetch] at h
    split at h
    · exact of_stage (relayEntries_measure ..).1 h
    · cases h
  | relay w tally event s rest => exact of_stage (afterSubmission_measure ..).1 h

namespace Agent

variable {a : Agent} {now next arrival : Nat} {delay : Request → Nat}
  {reply : (q : Request) → q.Reply} {s : Shared} {p : Phase}

/-- **An agent that acts and is in a tick then has moved no watermark.** It was asleep, and begins
to give the chain its first watermark only if there is none, or it was in the tick before. -/
theorem act_ticking (h : (a.act now delay reply s).1.activity = .ticking next p arrival) :
    (a.act now delay reply s).2.watermarks = s.watermarks ∧
      ((∃ deadline, a.activity = .sleeping deadline) ∧
          (p.initializes = true → s.watermark? a.observer.chain = none) ∨
        ∃ next' p' arrival', a.activity = .ticking next' p' arrival' ∧
          p'.initializes = p.initializes) := by
  cases ha : a.activity with
  | stopped =>
    simp only [act, ha] at h
    cases h
  | sleeping deadline =>
    simp only [act, ha, wake] at h ⊢
    split at h
    · cases h
    · rename_i hpoll
      rw [if_neg hpoll]
      rw [Observer.startTick_eq] at h ⊢
      have hmark : View.watermark? ⟨a.progress, s⟩ a.observer.chain =
        s.watermark? a.observer.chain := rfl
      cases hm : View.watermark? ⟨a.progress, s⟩ a.observer.chain with
      | none => exact ⟨rfl, .inl ⟨⟨deadline, rfl⟩, fun _ => hmark.symm.trans hm⟩⟩
      | some m =>
        rw [hm] at h
        cases h
        exact ⟨rfl, .inl ⟨⟨deadline, rfl⟩, nofun⟩⟩
  | ticking next' p' arrival' =>
    simp only [act, ha, resume] at h ⊢
    have heffect := a.observer.effect_resumeTick ⟨a.progress, s⟩ p' (reply (p'.request a.observer))
    cases ht : a.observer.resumeTick ⟨a.progress, s⟩ p' (reply (p'.request a.observer)) with
    | finished result v =>
      rw [ht] at h
      cases h
    | waiting q v =>
      rw [ht] at h heffect
      cases h
      refine ⟨heffect.watermarks, .inr ⟨_, p', arrival', rfl, ?_⟩⟩
      exact (Observer.initializes_resumeTick ht).symm

end Agent

/-! ## Agents by their places -/

theorem getElem?_append_cons_self {α : Type} (before after : List α) (a : α) :
    (before ++ a :: after)[before.length]? = some a := by
  simp

theorem getElem?_append_cons_of_ne {α : Type} (before after : List α) (a b : α) {i : Nat}
    (h : i ≠ before.length) : (before ++ b :: after)[i]? = (before ++ a :: after)[i]? := by
  by_cases hlt : i < before.length
  · rw [List.getElem?_append_left hlt, List.getElem?_append_left hlt]
  · obtain ⟨k, hk⟩ : ∃ k, i - before.length = k + 1 := ⟨i - before.length - 1, by omega⟩
    rw [List.getElem?_append_right (by omega), List.getElem?_append_right (by omega), hk,
      List.getElem?_cons_succ, List.getElem?_cons_succ]

/-- What a step before the time `horizon` can do to an agent, from one time to another, whose
supervisor was told to stop or was not. -/
inductive Agent.Turn (horizon now : Nat) (told : Bool) (a : Agent) : Nat → Agent → Prop
  | still : Turn horizon now told a now a
  | stopped (told_eq : told = true) : Turn horizon now told a now a.cancel
  | aborted (told_eq : told = true) : Turn horizon now told a now a.abort
  | acted (running : told = false) (delay : Request → Nat) (reply : (q : Request) → q.Reply)
      (s : Shared) (lt : now < horizon) (due : a.isDue now = true) :
      Turn horizon now told a now (a.act now delay reply s).1
  /-- The clock moves on, for the agent may not act. -/
  | waited (idle : a.mayAct now told = false) : Turn horizon now told a (now + 1) a

theorem Agent.Turn.observer_eq {horizon now now' : Nat} {told : Bool} {a b : Agent}
    (h : a.Turn horizon now told now' b) : b.observer = a.observer := by
  cases h with
  | still | waited => rfl
  | stopped => exact a.observer_cancel
  | aborted => exact a.observer_abort
  | acted => exact a.observer_act ..

namespace Operation

variable {σ : Type} {chain : ChainId} {ends : Ends σ} {horizon : Nat} {s t q : Operation σ}

/-- **A step does one of these things to an agent**, and leaves it at its place. -/
theorem Step.turn (step : Step chain ends horizon s t) {i : Nat} {a : Agent}
    (ha : s.supervisor.agents[i]? = some a) : ∃ b, t.supervisor.agents[i]? = some b ∧
      a.Turn horizon s.now s.supervisor.cancelled t.now b := by
  cases step with
  | @order x rest waits orders =>
    exact ⟨a, (agents_apply x s.now s.supervisor).symm ▸ ha, .still⟩
  | join returns =>
    obtain ⟨deadline, hs, -⟩ := Supervisor.conclusion?_eq_some returns
    refine ⟨a.abort, ?_, .aborted (Supervisor.cancelled_of_joining hs)⟩
    rw [Supervisor.eq_joined_of_conclusion? returns, Supervisor.joined, List.getElem?_map, ha,
      Option.map_some]
  | @stop b before after pass cancelled agents alive =>
    rw [agents] at ha
    by_cases hi : i = before.length
    · subst hi
      cases (getElem?_append_cons_self ..).symm.trans ha
      exact ⟨_, getElem?_append_cons_self .., .stopped cancelled⟩
    · exact ⟨a, (getElem?_append_cons_of_ne _ _ b _ hi).trans ha, .still⟩
  | @act b before after delay reply pass running agents due own =>
    rw [agents] at ha
    by_cases hi : i = before.length
    · subst hi
      cases (getElem?_append_cons_self ..).symm.trans ha
      exact ⟨_, getElem?_append_cons_self .., .acted running delay reply _ pass.now_lt due⟩
    · exact ⟨a, (getElem?_append_cons_of_ne _ _ b _ hi).trans ha, .still⟩
  | clock pass idle => exact ⟨a, ha, .waited (idle a (List.mem_of_getElem? ha))⟩

/-- A step after which the agent at a place is in a tick. If the agent is the one that acts, the
step moves no watermark. -/
structure InTick (chain : ChainId) (ends : Ends σ) (horizon i : Nat) (s t : Operation σ) :
    Prop where
  step : Step chain ends horizon s t
  ticking : ∃ a next p arrival, t.supervisor.agents[i]? = some a ∧
    a.activity = .ticking next p arrival
  spares : t.supervisor.agents[i]? ≠ s.supervisor.agents[i]? →
    t.supervisor.shared.watermarks = s.supervisor.shared.watermarks

/-- A tick of the agent at a place, which observes the chain `c` and waits in a phase at `s`, has
begun at `q`. -/
structure TickSince (chain : ChainId) (ends : Ends σ) (horizon i : Nat) (p : Phase) (c : ChainId)
    (q s : Operation σ) : Prop where
  /-- The agent was asleep. -/
  asleep : ∃ a deadline, q.supervisor.agents[i]? = some a ∧ a.activity = .sleeping deadline
  /-- It has been in the tick since, and what it did in it has moved no watermark. -/
  steps : Relation.TransGen (InTick chain ends horizon i) q s
  /-- A tick that is about to give the chain its first watermark began without one. -/
  uninitialized : p.initializes = true → q.supervisor.shared.watermark? c = none
  /-- The watermark of a chain that no other agent observes is the one before the tick, unless it
  was overridden. -/
  watermark : (∀ j : Nat, s.supervisor.chains[j]? = some c → j = i) →
    ∃ done, q.orders = done ++ s.orders ∧
      s.supervisor.shared.watermark? c =
        (Order.obeyAll done q.supervisor.shared).watermark? c

/-- A tick that goes on. -/
theorem TickSince.tail {i : Nat} {p p' : Phase} {c : ChainId}
    (h : TickSince chain ends horizon i p c q s) (step : InTick chain ends horizon i s t)
    (phase : p'.initializes = p.initializes)
    (mark : (∀ j : Nat, s.supervisor.chains[j]? = some c → j = i) →
      ∃ done, s.orders = done ++ t.orders ∧
        t.supervisor.shared.watermark? c = (Order.obeyAll done s.supervisor.shared).watermark? c) :
    TickSince chain ends horizon i p' c q t := by
  refine ⟨h.asleep, h.steps.tail step, phase ▸ h.uninitialized, ?_⟩
  intro only
  rw [step.step.chains_eq] at only
  obtain ⟨done, horders, hmark⟩ := h.watermark only
  obtain ⟨done', horders', hmark'⟩ := mark only
  refine ⟨done ++ done', ?_, ?_⟩
  · rw [horders, horders', List.append_assoc]
  · rw [hmark', Order.obeyAll_append]
    exact Order.watermark?_obeyAll_congr done' hmark

/-- An agent that has ended is in no tick. -/
theorem false_of_ticking {a : Agent} {next arrival : Nat} {p : Phase} (ended : a.isAlive = false)
    (h : a.activity = .ticking next p arrival) : False := by
  obtain ⟨how, ha⟩ := Agent.isAlive_eq_false_iff.1 ended
  cases h.symm.trans ha

variable {s₀ : Operation σ}

/-- An agent that acts and is in a tick then began the tick with this step or before. -/
theorem exists_tickSince_acted {before after : List Agent} {b : Agent} {delay : Request → Nat}
    {reply : (q : Request) → q.Reply}
    (step : Step chain ends horizon s (s.acted chain ends before b after delay reply))
    (run : Run chain ends horizon s₀ s) (hb : s.supervisor.agents[before.length]? = some b)
    (since : ∀ next p arrival, b.activity = .ticking next p arrival →
      ∃ q, Run chain ends horizon s₀ q ∧
        TickSince chain ends horizon before.length p b.observer.chain q s)
    {next arrival : Nat} {p : Phase}
    (hp : (b.act s.now delay reply s.supervisor.shared).1.activity = .ticking next p arrival) :
    ∃ q, Run chain ends horizon s₀ q ∧
      TickSince chain ends horizon before.length p b.observer.chain q
        (s.acted chain ends before b after delay reply) := by
  obtain ⟨spares, hbegin⟩ := Agent.act_ticking hp
  have inTick : InTick chain ends horizon before.length s
      (s.acted chain ends before b after delay reply) :=
    ⟨step, ⟨_, next, p, arrival, getElem?_append_cons_self .., hp⟩, fun _ => spares⟩
  have mark : ∃ done, s.orders = done ++ s.orders ∧
      (b.act s.now delay reply s.supervisor.shared).2.watermark? b.observer.chain =
        (Order.obeyAll done s.supervisor.shared).watermark? b.observer.chain :=
    ⟨[], rfl, congrArg (·.get? b.observer.chain) spares⟩
  rcases hbegin with ⟨⟨deadline, hsleep⟩, hnone⟩ | ⟨next', p', arrival', hb', hphase⟩
  · exact ⟨s, run, ⟨b, deadline, hb, hsleep⟩, .single inTick, hnone, fun _ => mark⟩
  · obtain ⟨q, hq, h⟩ := since next' p' arrival' hb'
    exact ⟨q, hq, h.tail inTick hphase.symm fun _ => mark⟩

/-- **A tick in flight goes back to a state at which its agent was asleep**, through one more
step. -/
theorem Step.exists_tickSince (step : Step chain ends horizon s t)
    (run : Run chain ends horizon s₀ s)
    (since : ∀ (i : Nat) a next p arrival, s.supervisor.agents[i]? = some a →
      a.activity = .ticking next p arrival → ∃ q, Run chain ends horizon s₀ q ∧
        TickSince chain ends horizon i p a.observer.chain q s)
    {i : Nat} {a : Agent} {next arrival : Nat} {p : Phase}
    (ha : t.supervisor.agents[i]? = some a) (hp : a.activity = .ticking next p arrival) :
    ∃ q, Run chain ends horizon s₀ q ∧
      TickSince chain ends horizon i p a.observer.chain q t := by
  have ticking : ∃ a next p arrival, t.supervisor.agents[i]? = some a ∧
    a.activity = .ticking next p arrival := ⟨a, next, p, arrival, ha, hp⟩
  -- a step in which the agent does nothing
  have other (same : t.supervisor.agents[i]? = s.supervisor.agents[i]?)
      (mark : (∀ j : Nat, s.supervisor.chains[j]? = some a.observer.chain → j = i) →
        ∃ done, s.orders = done ++ t.orders ∧
          t.supervisor.shared.watermark? a.observer.chain =
            (Order.obeyAll done s.supervisor.shared).watermark? a.observer.chain) :
      ∃ q, Run chain ends horizon s₀ q ∧
        TickSince chain ends horizon i p a.observer.chain q t := by
    obtain ⟨q, hq, h⟩ := since i a next p arrival (same.symm.trans ha) hp
    exact ⟨q, hq, h.tail ⟨step, ticking, fun hne => absurd same hne⟩ rfl mark⟩
  cases step with
  | @order x rest waits orders =>
    refine other ?_ fun _ => ⟨[(s.now, x)], orders, ?_⟩
    · exact congrArg (·[i]?) (agents_apply x s.now s.supervisor)
    · exact congrArg (Shared.watermark? · _) (x.shared_apply s.now s.supervisor)
  | join returns =>
    rw [Supervisor.eq_joined_of_conclusion? returns, Supervisor.joined, List.getElem?_map,
      Option.map_eq_some_iff] at ha
    obtain ⟨b, -, rfl⟩ := ha
    exact (false_of_ticking b.isAlive_abort hp).elim
  | @stop b before after pass cancelled agents alive =>
    by_cases hi : i = before.length
    · subst hi
      cases (getElem?_append_cons_self before after b.cancel).symm.trans ha
      exact (false_of_ticking b.isAlive_cancel hp).elim
    · refine other ?_ fun _ => ⟨[], rfl, rfl⟩
      rw [agents]
      exact getElem?_append_cons_of_ne before after b _ hi
  | @act b before after delay reply pass running agents due own =>
    have hb : s.supervisor.agents[before.length]? = some b := by
      rw [agents, getElem?_append_cons_self]
    by_cases hi : i = before.length
    · subst hi
      obtain rfl : (b.act s.now delay reply s.supervisor.shared).1 = a :=
        Option.some.inj ((getElem?_append_cons_self before after _).symm.trans ha)
      rw [Agent.observer_act]
      exact exists_tickSince_acted (.act delay reply pass running agents due own) run hb
        (fun _ _ _ hb' => since _ b _ _ _ hb hb') hp
    · refine other ?_ fun only => ⟨[], rfl, ?_⟩
      · rw [agents]
        exact getElem?_append_cons_of_ne before after b _ hi
      · refine Agent.watermark?_act_of_ne b s.now delay reply _ fun hc => hi ?_
        refine (only before.length ?_).symm
        rw [Supervisor.chains, List.getElem?_map, hb, hc]
        rfl
  | clock => exact other rfl fun _ => ⟨[], rfl, rfl⟩

/-- **Every tick in flight goes back to a state at which its agent was asleep**, if the agents were
asleep in the beginning. -/
theorem Run.exists_tickSince (run : Run chain ends horizon s₀ s)
    (asleep : ∀ a ∈ s₀.supervisor.agents, ∃ deadline, a.activity = .sleeping deadline)
    {i : Nat} {a : Agent} {next arrival : Nat} {p : Phase}
    (ha : s.supervisor.agents[i]? = some a) (hp : a.activity = .ticking next p arrival) :
    ∃ q, Run chain ends horizon s₀ q ∧
      TickSince chain ends horizon i p a.observer.chain q s := by
  induction run generalizing i a next arrival p with
  | refl =>
    obtain ⟨deadline, hsleep⟩ := asleep a (List.mem_of_getElem? ha)
    cases hsleep.symm.trans hp
  | tail run step ih =>
    exact step.exists_tickSince run (fun _ _ _ _ _ ha hp => ih ha hp) ha hp

end Operation

end BridgeWatch
