import BridgeWatch.Proofs.Supervisor.Schedule
import BridgeWatch.Rehearsal.Clock

/-!
# Rehearsals as schedules

A rehearsal lets time pass in one particular order: it jumps from one time at which some agent is
due to the next, and lets the agents act one after the other, each until it has to wait. This is one
of the schedules of its supervisor, and a complete one (`run_sleep`), in which any one of the chains
is answered by its part of the script (`World.ends`).
-/

namespace BridgeWatch.Rehearsal

/-! ## The scripted ends of one chain -/

theorem Endpoint.delays_readHead (e : Endpoint) :
    e.readHead.2.headDelay = e.headDelay ∧ e.readHead.2.fetchDelay = e.fetchDelay := by
  unfold readHead
  split <;> exact ⟨rfl, rfl⟩

theorem Endpoint.delays_fetch (e : Endpoint) (contract : Address) (w : Window) :
    (e.fetch contract w).2.headDelay = e.headDelay ∧
      (e.fetch contract w).2.fetchDelay = e.fetchDelay := by
  unfold fetch
  split <;> exact ⟨rfl, rfl⟩

namespace World

/-- The scripted ends of a chain. -/
def ends (chain : ChainId) : Ends World where
  accept _ q w := (w.delay chain q, w)
  answer _ q w := answer chain q w

/-- Two scripts are the same for a chain, the number of submissions accepted so far aside. -/
structure Agrees (chain : ChainId) (w u : World) : Prop where
  endpoint : w.endpoint chain = u.endpoint chain
  heights : w.ledger.heights = u.ledger.heights
  heightFault : w.ledger.heightFault = u.ledger.heightFault
  refusals : w.ledger.refusals = u.ledger.refusals
  submitDelay : w.ledger.submitDelay = u.ledger.submitDelay

variable {chain : ChainId} {w u : World}

theorem Agrees.refl (chain : ChainId) (w : World) : w.Agrees chain w := ⟨rfl, rfl, rfl, rfl, rfl⟩

theorem Agrees.symm (h : w.Agrees chain u) : u.Agrees chain w :=
  ⟨h.endpoint.symm, h.heights.symm, h.heightFault.symm, h.refusals.symm, h.submitDelay.symm⟩

theorem Agrees.trans (h : w.Agrees chain u) {v : World} (h' : u.Agrees chain v) :
    w.Agrees chain v :=
  ⟨h.endpoint.trans h'.endpoint, h.heights.trans h'.heights, h.heightFault.trans h'.heightFault,
    h.refusals.trans h'.refusals, h.submitDelay.trans h'.submitDelay⟩

theorem Agrees.delay (h : w.Agrees chain u) (q : Request) : w.delay chain q = u.delay chain q := by
  cases q with
  | recordedHeight c => rfl
  | head => exact congrArg (·.headDelay) h.endpoint
  | logs contract window => exact congrArg (·.fetchDelay) h.endpoint
  | submit s => exact h.submitDelay

/-- The script with another endpoint for a chain. -/
def withEndpoint (w : World) (chain : ChainId) (e : Endpoint) : World :=
  { w with endpoints := Assoc.put chain e w.endpoints }

@[simp]
theorem endpoint_withEndpoint_self (w : World) (chain : ChainId) (e : Endpoint) :
    (w.withEndpoint chain e).endpoint chain = e := by
  simp [endpoint, withEndpoint]

theorem endpoint_withEndpoint_of_ne (w : World) {chain other : ChainId} (h : chain ≠ other)
    (e : Endpoint) : (w.withEndpoint other e).endpoint chain = w.endpoint chain := by
  simp [endpoint, withEndpoint, Assoc.find?_put_of_ne h]

theorem Agrees.withEndpoint (h : w.Agrees chain u) (e : Endpoint) :
    (w.withEndpoint chain e).Agrees chain (u.withEndpoint chain e) :=
  ⟨by simp, h.heights, h.heightFault, h.refusals, h.submitDelay⟩

theorem Agrees.withEndpoint_of_ne (h : w.Agrees chain u) {other : ChainId} (hc : chain ≠ other)
    (e : Endpoint) : (w.withEndpoint other e).Agrees chain u :=
  ⟨(endpoint_withEndpoint_of_ne w hc e).trans h.endpoint, h.heights, h.heightFault, h.refusals,
    h.submitDelay⟩

/-- Scripts that are the same for a chain answer it the same and stay so. -/
theorem Agrees.answer (h : w.Agrees chain u) (q : Request) :
    q.SameReply (World.answer chain q w).1 (World.answer chain q u).1 ∧
      (World.answer chain q w).2.Agrees chain (World.answer chain q u).2 := by
  cases q with
  | recordedHeight c =>
    refine ⟨?_, h⟩
    show w.ledger.recordedHeight c = u.ledger.recordedHeight c
    simp only [ScriptedLedger.recordedHeight, h.heights, h.heightFault]
  | head =>
    have he : (w.endpoint chain).readHead = (u.endpoint chain).readHead := by
      rw [h.endpoint]
    refine ⟨?_, ?_⟩
    · show (w.endpoint chain).readHead.1 = (u.endpoint chain).readHead.1
      rw [he]
    · show (w.withEndpoint chain (w.endpoint chain).readHead.2).Agrees chain _
      rw [he]
      exact h.withEndpoint _
  | logs contract window =>
    have he : (w.endpoint chain).fetch contract window =
        (u.endpoint chain).fetch contract window := by
      rw [h.endpoint]
    refine ⟨?_, ?_⟩
    · show ((w.endpoint chain).fetch contract window).1 =
        ((u.endpoint chain).fetch contract window).1
      rw [he]
    · show (w.withEndpoint chain ((w.endpoint chain).fetch contract window).2).Agrees chain _
      rw [he]
      exact h.withEndpoint _
  | submit s =>
    simp only [World.answer, ScriptedLedger.submit, h.refusals]
    cases Assoc.find? (recipient s) u.ledger.refusals with
    | some f => exact ⟨rfl, h⟩
    | none => exact ⟨rfl, h.endpoint, h.heights, h.heightFault, rfl, h.submitDelay⟩

/-- An answer to another chain leaves the script the same for a chain. -/
theorem Agrees.answer_of_ne (h : w.Agrees chain u) {other : ChainId} (hc : chain ≠ other)
    (q : Request) : (World.answer other q w).2.Agrees chain u := by
  cases q with
  | recordedHeight c => exact h
  | head | logs => exact h.withEndpoint_of_ne hc _
  | submit s =>
    simp only [World.answer, ScriptedLedger.submit]
    cases Assoc.find? (recipient s) w.ledger.refusals with
    | some f => exact h
    | none => exact ⟨h.endpoint, h.heights, h.heightFault, h.refusals, h.submitDelay⟩

/-- An endpoint with the same delays answers as late. -/
theorem delay_withEndpoint (w : World) (chain : ChainId) {e : Endpoint}
    (hh : e.headDelay = (w.endpoint chain).headDelay)
    (hf : e.fetchDelay = (w.endpoint chain).fetchDelay) (q : Request) :
    (w.withEndpoint chain e).delay chain q = w.delay chain q := by
  cases q with
  | recordedHeight c => rfl
  | head => simp only [delay, endpoint_withEndpoint_self, hh]
  | logs contract window => simp only [delay, endpoint_withEndpoint_self, hf]
  | submit s => rfl

/-- Answers do not change how long answers take. -/
theorem delay_answer (w : World) (chain : ChainId) (q q' : Request) :
    (answer chain q w).2.delay chain q' = w.delay chain q' := by
  cases q with
  | recordedHeight c => rfl
  | head =>
    obtain ⟨hh, hf⟩ := (w.endpoint chain).delays_readHead
    exact w.delay_withEndpoint chain hh hf q'
  | logs contract window =>
    obtain ⟨hh, hf⟩ := (w.endpoint chain).delays_fetch contract window
    exact w.delay_withEndpoint chain hh hf q'
  | submit s =>
    simp only [answer, ScriptedLedger.submit]
    split <;> cases q' <;> rfl

/-- The calls so far do not depend on answers. -/
theorem calls_answer (w : World) (chain : ChainId) (q : Request) :
    (answer chain q w).2.calls = w.calls := by
  cases q with
  | recordedHeight | head | logs => rfl
  | submit s => rfl

end World

/-! ## One agent -/

variable {chain : ChainId} {horizon now : Nat} {sup : Supervisor} {s : Shared} {w u : World}

/-- The calls after an agent's step. -/
theorem calls_noteCall (now : Nat) (a : Agent) (w : World) :
    (noteCall now a w).calls =
      w.calls ++ (a.pending?.map fun q => ⟨now, a.observer.chain, q⟩).toList := by
  unfold noteCall Agent.pending?
  cases a.activity with
  | ticking next p arrival => rfl
  | sleeping | stopped => simp

/-- A call that is recorded does not change the script. -/
theorem agrees_noteCall (h : w.Agrees chain u) (now : Nat) (a : Agent) :
    (noteCall now a w).Agrees chain u := by
  unfold noteCall
  split
  · exact ⟨h.endpoint, h.heights, h.heightFault, h.refusals, h.submitDelay⟩
  · exact h

/-- The script takes no note of requests. -/
theorem accepted_ends (chain : ChainId) (now : Nat) (pending : Option Request) (w : World) :
    (World.ends chain).accepted now pending w = w := by
  cases pending <;> rfl

/-- The calls so far do not depend on answers. -/
theorem calls_answered (chain : ChainId) (now : Nat) (pending : Option Request) (w : World) :
    ((World.ends chain).answered now pending w).calls = w.calls := by
  cases pending with
  | none => rfl
  | some q => exact World.calls_answer w chain q

/-- A step of an agent of a rehearsal is one that is answered by the script of its chain. -/
theorem act_eq (now : Nat) (a : Agent) (s : Shared) (w : World) :
    act now a s w =
      let r := a.act now (w.delay a.observer.chain)
        (fun q => (World.answer a.observer.chain q w).1) s
      (r.1, r.2, noteCall now r.1 ((World.ends a.observer.chain).answered now a.pending? w)) := by
  unfold act Agent.act
  split
  · rename_i ha
    simp only [ha, noteCall, Agent.pending?, Ends.answered]
  · rename_i ha
    simp only [ha, Agent.pending?, Ends.answered]
    rfl
  · rename_i next p arrival ha
    have hd : Rehearsal.arrival now a (World.answer a.observer.chain (p.request a.observer) w).2 =
        fun p => now + w.delay a.observer.chain (p.request a.observer) := by
      funext p'
      simp only [Rehearsal.arrival, World.delay_answer]
    simp only [ha, Agent.pending?, Ends.answered, hd]
    rfl

/-- The schedule of a rehearsal whose agents act at a given time. -/
def staged (now : Nat) (sup : Supervisor) (agents : List Agent) (s : Shared) (w u : World) :
    Operation World :=
  ⟨now, { sup with agents := agents, shared := s }, u, w.calls, []⟩

theorem mayPass_staged {agents : List Agent} (hlt : now < horizon) (settled : sup.IsSettled) :
    (staged now sup agents s w u).MayPass horizon := by
  have settled' : (staged now sup agents s w u).supervisor.IsSettled := settled
  exact ⟨hlt, settled'.conclusion? now, fun _ h => (List.not_mem_nil h).elim⟩

/-- A step of an agent of a rehearsal is a step of the schedule. -/
theorem step_act (h : w.Agrees chain u) (hlt : now < horizon) (running : sup.cancelled = false)
    (before after : List Agent) {a : Agent} (due : a.isDue now = true) :
    ∃ u', Operation.Step chain (World.ends chain) horizon
        (staged now sup (before ++ a :: after) s w u)
        (staged now sup (before ++ (act now a s w).1 :: after) (act now a s w).2.1
          (act now a s w).2.2 u') ∧
      (act now a s w).2.2.Agrees chain u' := by
  have own (hc : a.observer.chain = chain) : (World.ends chain).Gives now a.pending? u
      (w.delay a.observer.chain) (fun q => (World.answer a.observer.chain q w).1) := by
    subst hc
    refine ⟨fun q _ => (h.answer q).1, ?_⟩
    intro q
    rw [h.delay]
    unfold Ends.answered
    split
    · exact (World.delay_answer ..).symm
    · rfl
  have agrees : ((World.ends a.observer.chain).answered now a.pending? w).Agrees chain
      (if a.observer.chain = chain then (World.ends chain).answered now a.pending? u else u) := by
    unfold Ends.answered
    split
    · split
      · rename_i q _ hc
        subst hc
        exact (h.answer q).2
      · rename_i q _ hc
        exact h.answer_of_ne (Ne.symm hc) q
    · split <;> exact h
  have step := Operation.Step.act (w.delay a.observer.chain)
    (fun q => (World.answer a.observer.chain q w).1)
    (mayPass_staged hlt (Supervisor.isSettled_of_running running))
    (s := staged now sup (before ++ a :: after) s w u) running rfl due own
  have acted : (staged now sup (before ++ a :: after) s w u).acted chain (World.ends chain)
        before a after (w.delay a.observer.chain)
        (fun q => (World.answer a.observer.chain q w).1) =
      staged now sup (before ++ (act now a s w).1 :: after) (act now a s w).2.1
        (act now a s w).2.2
        (if a.observer.chain = chain then (World.ends chain).answered now a.pending? u
          else u) := by
    rw [act_eq]
    simp only [staged, Operation.acted, calls_noteCall, calls_answered, accepted_ends,
      Agent.observer_act]
  refine ⟨_, acted ▸ step, ?_⟩
  rw [act_eq]
  exact agrees_noteCall agrees ..

/-- An agent of a rehearsal acts until it has to wait. -/
theorem run_settle (hlt : now < horizon) (running : sup.cancelled = false)
    (before after : List Agent) (a : Agent) (s : Shared) (w : World) (h : w.Agrees chain u) :
    ∃ u', Operation.Run chain (World.ends chain) horizon
        (staged now sup (before ++ a :: after) s w u)
        (staged now sup (before ++ (settle now a s w).1 :: after) (settle now a s w).2.1
          (settle now a s w).2.2 u') ∧
      (settle now a s w).2.2.Agrees chain u' ∧ (settle now a s w).1.isDue now = false := by
  induction a, s, w using settle.induct now generalizing u with
  | case1 a s w due r =>
    rename_i ih
    obtain ⟨u₁, step, h₁⟩ := step_act h hlt running before after due
    obtain ⟨u₂, run, h₂, idle⟩ := ih h₁
    rw [settle, dif_pos due]
    exact ⟨u₂, .head step run, h₂, idle⟩
  | case2 a s w due =>
    rw [settle, dif_neg due]
    exact ⟨u, .refl, h, by simpa using due⟩

/-! ## All agents -/

/-- The agents of a rehearsal act one after the other. -/
theorem run_settleAll (hlt : now < horizon) (running : sup.cancelled = false)
    (before agents : List Agent) {s : Shared} {w u : World} (h : w.Agrees chain u) :
    ∃ u', Operation.Run chain (World.ends chain) horizon
        (staged now sup (before ++ agents) s w u)
        (staged now sup (before ++ (settleAll now s w agents).1) (settleAll now s w agents).2.1
          (settleAll now s w agents).2.2 u') ∧
      (settleAll now s w agents).2.2.Agrees chain u' ∧
      ∀ a ∈ (settleAll now s w agents).1, a.isDue now = false := by
  induction agents generalizing before s w u with
  | nil => exact ⟨u, .refl, h, fun _ ha => (List.not_mem_nil ha).elim⟩
  | cons a agents ih =>
    obtain ⟨u₁, run₁, h₁, idle₁⟩ :=
      run_settle hlt running before agents a s w h
    obtain ⟨u₂, run₂, h₂, idle₂⟩ := ih (before ++ [(settle now a s w).1]) h₁
    rw [List.append_assoc, List.append_assoc] at run₂
    exact ⟨u₂, run₁.trans run₂, h₂, List.forall_mem_cons.2 ⟨idle₁, idle₂⟩⟩

/-- The schedule of a rehearsal. -/
def operation (r : Rehearsal) (u : World) : Operation World :=
  ⟨r.now, r.supervisor, u, r.world.calls, []⟩

/-- The clock of a rehearsal moves on while no agent may act. -/
theorem run_wait (chain : ChainId) (r : Rehearsal) (u : World) {time : Nat}
    (settled : r.supervisor.IsSettled) (hle : r.now ≤ time) (htime : time ≤ horizon)
    (idle : ∀ a ∈ r.supervisor.agents, ∀ x, r.now ≤ x → x < time →
      a.mayAct x r.supervisor.cancelled = false) :
    Operation.Run chain (World.ends chain) horizon (r.operation u)
      (operation { r with now := time } u) := by
  obtain ⟨k, rfl⟩ := Nat.exists_eq_add_of_le hle
  induction k with
  | zero => exact .refl
  | succ k ih =>
    have run := ih (by omega) (by omega) fun a ha x hx hlt => idle a ha x hx (by omega)
    have hlt : r.now + k < horizon := by omega
    have pass : (operation { r with now := r.now + k } u).MayPass horizon :=
      mayPass_staged hlt settled
    refine run.tail (.clock pass ?_)
    intro a ha
    exact idle a ha (r.now + k) (by omega) (by omega)

/-- No agent is due before the first one. -/
theorem isDue_of_lt_nextDue? {agents : List Agent} {first x : Nat}
    (h : nextDue? agents = some first) (hx : x < first) :
    ∀ a ∈ agents, a.isDue x = false := by
  intro a ha
  cases hd : a.due? with
  | none => simp [Agent.isDue, hd]
  | some d =>
    have hle : first ≤ d := (List.min?_eq_some_iff.1 h).2 d (List.mem_filterMap.2 ⟨a, ha, hd⟩)
    simp only [Agent.isDue, hd, Option.any_some, decide_eq_false_iff_not]
    omega

theorem due?_of_nextDue?_eq_none {agents : List Agent} (h : nextDue? agents = none) :
    ∀ a ∈ agents, a.due? = none := by
  intro a ha
  have hnil := List.min?_eq_none_iff.1 h
  rw [List.filterMap_eq_nil_iff] at hnil
  exact hnil a ha

/-- The agents of a rehearsal act at one time. -/
theorem run_instant (r : Rehearsal) (hlt : now < horizon)
    (running : r.supervisor.cancelled = false) (h : r.world.Agrees chain u) :
    ∃ u', Operation.Run chain (World.ends chain) horizon
        (staged now r.supervisor r.supervisor.agents r.supervisor.shared r.world u)
        ((r.instant now).operation u') ∧
      (r.instant now).world.Agrees chain u' ∧
      ∀ a ∈ (r.instant now).supervisor.agents, a.isDue now = false :=
  run_settleAll hlt running [] r.supervisor.agents h

/-- A rehearsal whose agents were not told to stop runs up to a given time. -/
theorem run_runFrom (start : Nat) (r : Rehearsal) (running : r.supervisor.cancelled = false)
    (h : r.world.Agrees chain u) (hle : start ≤ horizon) (hnow : r.now ≤ start)
    (idle : ∀ a ∈ r.supervisor.agents, ∀ x, r.now ≤ x → x < start → a.isDue x = false) :
    ∃ u', Operation.Run chain (World.ends chain) horizon (r.operation u)
        ((runFrom start horizon r).operation u') ∧
      (runFrom start horizon r).world.Agrees chain u' := by
  have settled := Supervisor.isSettled_of_running running
  induction start, r using runFrom.induct horizon generalizing u with
  | case1 start r hd =>
    rw [runFrom, hd]
    refine ⟨u, run_wait chain r u settled (Nat.le_trans hnow hle) (Nat.le_refl _) ?_, h⟩
    intro a ha x _ _
    rw [Agent.mayAct, running, if_neg Bool.false_ne_true, Agent.isDue,
      due?_of_nextDue?_eq_none hd a ha]
    rfl
  | case2 start r due hd hlt ih =>
    rw [runFrom, hd]
    simp only [hlt, if_true]
    have waited : Operation.Run chain (World.ends chain) horizon (r.operation u)
        (operation { r with now := max due start } u) := by
      refine run_wait chain r u settled (by omega) (by omega) ?_
      intro a ha x hx hxt
      rw [Agent.mayAct, running, if_neg Bool.false_ne_true]
      by_cases hxs : x < start
      · exact idle a ha x hx hxs
      · exact isDue_of_lt_nextDue? hd (by omega) a ha
    obtain ⟨u₁, run₁, h₁, idle₁⟩ := run_instant r hlt running h
    obtain ⟨u₂, run₂, h₂⟩ := ih running h₁ (by omega) (Nat.le_succ _) (by
      intro a ha x hx hxt
      obtain rfl : x = max due start := Nat.le_antisymm (Nat.le_of_lt_succ hxt) hx
      exact idle₁ a ha) settled
    exact ⟨u₂, (waited.trans run₁).trans run₂, h₂⟩
  | case3 start r due hd hlt =>
    rw [runFrom, hd]
    simp only [hlt, if_false]
    refine ⟨u, run_wait chain r u settled (Nat.le_trans hnow hle) (Nat.le_refl _) ?_, h⟩
    intro a ha x hx hxt
    rw [Agent.mayAct, running, if_neg Bool.false_ne_true]
    by_cases hxs : x < start
    · exact idle a ha x hx hxs
    · exact isDue_of_lt_nextDue? hd (by omega) a ha

theorem now_runFrom (start horizon : Nat) (r : Rehearsal) :
    (runFrom start horizon r).now = horizon := by
  induction start, r using runFrom.induct horizon with
  | case1 start r hd => rw [runFrom, hd]
  | case2 start r due hd hlt ih =>
    rw [runFrom, hd]
    simp only [hlt, if_true]
    exact ih
  | case3 start r due hd hlt =>
    rw [runFrom, hd]
    simp only [hlt, if_false]

theorem standing_runFrom (start horizon : Nat) (r : Rehearsal) :
    (runFrom start horizon r).supervisor.standing = r.supervisor.standing := by
  induction start, r using runFrom.induct horizon with
  | case1 start r hd => rw [runFrom, hd]
  | case2 start r due hd hlt ih =>
    rw [runFrom, hd]
    simp only [hlt, if_true]
    exact ih
  | case3 start r due hd hlt =>
    rw [runFrom, hd]
    simp only [hlt, if_false]

/-- A sleep neither tells agents to stop nor waits for them. -/
theorem standing_sleep (r : Rehearsal) (ms : Nat) :
    (r.sleep ms).supervisor.standing = r.supervisor.standing := by
  unfold sleep
  split
  · rfl
  · rw [standing_runFrom]
    unfold Supervisor.noticeCancel
    split <;> rfl

/-! ## Agents that were told to stop -/

/-- The agents of a rehearsal stop that were told to. -/
theorem run_cancelAll (chain : ChainId) (hlt : now < horizon) (settled : sup.IsSettled)
    (told : sup.cancelled = true) (before agents : List Agent) (s : Shared) (w u : World) :
    Operation.Run chain (World.ends chain) horizon (staged now sup (before ++ agents) s w u)
      (staged now sup (before ++ agents.map Agent.cancel) s w u) :=
  Operation.run_stopAll (s := staged now sup agents s w u) (mayPass_staged hlt settled) told before
    agents

/-! ## Whole rehearsals -/

theorem isSettled_sleep {r : Rehearsal} (settled : r.supervisor.IsSettled) (ms : Nat) :
    (r.sleep ms).supervisor.IsSettled := by
  intro deadline
  rw [standing_sleep]
  exact settled deadline

/-- **A rehearsal in which time passes is a complete run of a schedule**, in which any one of its
chains is answered by its script. -/
theorem run_sleep (r : Rehearsal) (settled : r.supervisor.IsSettled) (ms : Nat)
    (h : r.world.Agrees chain u) :
    ∃ u', Operation.Run chain (World.ends chain) (r.now + ms) (r.operation u)
        ((r.sleep ms).operation u') ∧
      ((r.sleep ms).operation u').IsComplete (r.now + ms) ∧
      (r.sleep ms).world.Agrees chain u' := by
  have waits (u' : World) : ((r.sleep ms).operation u').supervisor.conclusion?
      ((r.sleep ms).operation u').now = none := (isSettled_sleep settled ms).conclusion? _
  revert waits
  unfold sleep
  split
  · rename_i hms
    exact fun waits => ⟨u, .refl, ⟨by rw [hms]; rfl, waits u, rfl⟩, h⟩
  · rename_i hms
    intro waits
    have hlt : r.now < r.now + ms := by omega
    cases told : r.supervisor.cancelled with
    | false =>
      have same : r.supervisor.noticeCancel = r.supervisor := by
        rw [Supervisor.noticeCancel, told, if_neg Bool.false_ne_true]
      rw [same] at waits ⊢
      obtain ⟨u', run, h'⟩ := run_runFrom r.now r told h (Nat.le_of_lt hlt) (Nat.le_refl _)
        fun a _ x hx hxt => absurd hxt (Nat.not_lt.2 hx)
      exact ⟨u', run, ⟨now_runFrom .., waits u', rfl⟩, h'⟩
    | true =>
      have stopped := run_cancelAll chain hlt settled told [] r.supervisor.agents
        r.supervisor.shared r.world u
      have waited := run_wait chain { r with supervisor := r.supervisor.stopAll } u settled
        (Nat.le_of_lt hlt) (Nat.le_refl _) (by
          intro a ha x _ _
          obtain ⟨b, -, rfl⟩ := List.mem_map.1 ha
          have htold : r.supervisor.stopAll.cancelled = true := told
          rw [Agent.mayAct, htold, if_pos rfl, Agent.isAlive_cancel])
      have none_due : nextDue? (r.supervisor.agents.map Agent.cancel) = none := by
        have hnil : (r.supervisor.agents.map Agent.cancel).filterMap Agent.due? = [] := by
          simp [Agent.due?_of_not_alive, Agent.isAlive_cancel]
        rw [nextDue?, hnil, List.min?_nil]
      have noticed : r.supervisor.noticeCancel = r.supervisor.stopAll := if_pos told
      have hrun : runFrom r.now (r.now + ms) { r with supervisor := r.supervisor.stopAll } =
          { r with now := r.now + ms, supervisor := r.supervisor.stopAll } := by
        rw [runFrom, show nextDue? r.supervisor.stopAll.agents = none from none_due]
      rw [noticed, hrun] at waits ⊢
      exact ⟨u, stopped.trans waited, ⟨rfl, waits u, rfl⟩, h⟩

end BridgeWatch.Rehearsal
