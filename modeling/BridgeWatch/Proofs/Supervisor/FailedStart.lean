import BridgeWatch.Proofs.Supervisor.Start

/-!
# Starts that fail

* `Supervisor.IsHarmless`: a supervisor that nobody holds never makes a call and never sets a
  watermark. It is so exactly when no observer can be timed (`isHarmless_running_iff`): any other
  asks the ledger and takes its answer for the watermark (`Operation.exists_run_initialized`).
* `Supervisor.failed_start_leaves`: what a failed start leaves behind, and when that is harmless.
-/

namespace BridgeWatch

namespace Supervisor

/-! ## Supervisors that nobody holds -/

/-- No observer of a supervisor that nobody holds ever makes a call or sets a watermark. -/
def IsHarmless (s : Supervisor) (now : Nat) : Prop :=
  ∀ (σ : Type) (chain : ChainId) (ends : Ends σ) (r : σ) (horizon : Nat) (t : Operation σ),
    Operation.Run chain ends horizon ⟨now, s, r, [], []⟩ t →
      t.calls = [] ∧ ∀ c, t.supervisor.shared.watermark? c = none

end Supervisor

namespace Agent

variable {a : Agent}

/-- An agent that cannot be timed and is in no tick. -/
structure IsUntimed (a : Agent) : Prop where
  pollInterval : a.observer.pollInterval = 0
  idle : a.pending? = none

/-- It begins no tick. -/
theorem IsUntimed.act (h : a.IsUntimed) (now : Nat) (delay : Request → Nat)
    (reply : (q : Request) → q.Reply) (s : Shared) :
    (a.act now delay reply s).1.IsUntimed ∧ (a.act now delay reply s).2 = s := by
  have hidle := h.idle
  unfold pending? at hidle
  unfold Agent.act
  cases ha : a.activity with
  | stopped => exact ⟨h, rfl⟩
  | sleeping deadline =>
    dsimp only
    rw [wake, if_pos h.pollInterval]
    exact ⟨⟨h.pollInterval, rfl⟩, rfl⟩
  | ticking next p arrival =>
    rw [ha] at hidle
    cases hidle

theorem IsUntimed.cancel (h : a.IsUntimed) : a.cancel.IsUntimed := by
  unfold Agent.cancel
  split
  · exact h
  · rw [if_pos h.pollInterval]
    exact ⟨h.pollInterval, rfl⟩

theorem IsUntimed.abort (h : a.IsUntimed) : a.abort.IsUntimed := by
  unfold Agent.abort
  split
  · exact h
  · exact ⟨h.pollInterval, rfl⟩

/-- An observer at work that has asked the ledger for its chain's record in its first tick. -/
def asking (o : Observer) (now arrival : Nat) : Agent :=
  ⟨o, (View.setState ⟨o.initialProgress, .empty⟩ .scanning).progress,
    .ticking (Cadence.nextDeadline o.pollInterval now now) .lookup arrival⟩

/-- An agent that can be timed asks the ledger as soon as it acts, if its chain has no watermark. -/
theorem act_spawn {o : Observer} (timed : o.pollInterval ≠ 0) (now : Nat)
    (delay : Request → Nat) (reply : (q : Request) → q.Reply) {s : Shared}
    (hs : s.watermark? o.chain = none) : (spawn o now).act now delay reply s =
      (asking o now (now + delay (.recordedHeight o.chain)), s) := by
  have hstart : o.startTick ⟨o.initialProgress, s⟩ =
      .waiting .lookup (View.setState ⟨o.initialProgress, s⟩ .scanning) := by
    rw [Observer.startTick_eq, show View.watermark? ⟨o.initialProgress, s⟩ o.chain = none from hs]
  have hwake : (spawn o now).act now delay reply s =
      (spawn o now).enter (Cadence.nextDeadline o.pollInterval now now)
        (fun p => now + delay (p.request o)) (o.startTick ⟨o.initialProgress, s⟩) :=
    if_neg timed
  rw [hwake, hstart]
  rfl

/-- The ledger's record becomes the watermark. -/
theorem act_asking (o : Observer) (now arrival : Nat) (delay : Request → Nat)
    (reply : (q : Request) → q.Reply) (s : Shared) {height : UInt64} (hheight : height ≠ 0)
    (hreply : reply (.recordedHeight o.chain) = .ok height) :
    ((asking o now arrival).act now delay reply s).1.pending? = none ∧
      ((asking o now arrival).act now delay reply s).2.watermark? o.chain = some height := by
  have hstep : (asking o now arrival).act now delay reply s =
      (asking o now arrival).enter (Cadence.nextDeadline o.pollInterval now now)
        (fun p => now + delay (p.request o))
        (o.initializeAt height ⟨(asking o now arrival).progress, s⟩) := by
    show (asking o now arrival).enter _ _ (o.resumeTick _ .lookup
      (reply (.recordedHeight o.chain))) = _
    rw [hreply]
    simp only [Observer.resumeTick, Shared.recordedStart?, if_neg hheight]
    rfl
  rw [hstep]
  obtain ⟨v, hv, hw⟩ := o.finishTick_eq (.ok (.initialized height))
    (View.modifyShared ⟨(asking o now arrival).progress, s⟩ (·.setWatermark o.chain height))
  rw [show o.initializeAt height _ = _ from hv]
  refine ⟨rfl, ?_⟩
  show v.shared.watermarks.get? o.chain = some height
  rw [hw]
  exact WatermarkStore.get?_set_self ..

end Agent

namespace Operation

variable {σ : Type} {chain : ChainId} {ends : Ends σ} {horizon : Nat} {s t : Operation σ}

theorem calls_acted_of_idle {a : Agent} {before after : List Agent} {delay : Request → Nat}
    {reply : (q : Request) → q.Reply}
    (h : (a.act s.now delay reply s.supervisor.shared).1.pending? = none) :
    (s.acted chain ends before a after delay reply).calls = s.calls := by
  simp [acted, h]

/-- No agent can be timed, there is no order to come, and nothing has happened. -/
structure Dormant (s : Operation σ) : Prop where
  untimed : ∀ a ∈ s.supervisor.agents, a.IsUntimed
  orders : s.orders = []
  calls : s.calls = []
  watermarks : ∀ c, s.supervisor.shared.watermark? c = none

theorem Step.dormant (h : Step chain ends horizon s t) (hs : s.Dormant) : t.Dormant := by
  have huntimed := h.forall_agents ⟨fun h _ delay reply s => (h.act _ delay reply s).1,
    fun h => h.cancel⟩ hs.untimed fun _ _ _ => Agent.IsUntimed.abort
  cases h with
  | order waits orders => cases hs.orders.symm.trans orders
  | join returns =>
    refine ⟨huntimed, hs.orders, hs.calls, ?_⟩
    rw [Supervisor.eq_joined_of_conclusion? returns]
    exact hs.watermarks
  | stop pass cancelled agents alive => exact ⟨huntimed, hs.orders, hs.calls, hs.watermarks⟩
  | clock pass idle => exact ⟨huntimed, hs.orders, hs.calls, hs.watermarks⟩
  | @act a before after delay reply pass running agents due own =>
    have ha := hs.untimed a (agents ▸ List.mem_append_right _ List.mem_cons_self)
    obtain ⟨hact, hshared⟩ := ha.act s.now delay reply s.supervisor.shared
    refine ⟨huntimed, hs.orders, ?_, ?_⟩
    · exact (calls_acted_of_idle hact.idle).trans hs.calls
    · intro c
      show (a.act s.now delay reply s.supervisor.shared).2.watermark? c = none
      rw [hshared]
      exact hs.watermarks c

theorem Run.dormant (run : Run chain ends horizon s t) (hs : s.Dormant) : t.Dormant := by
  induction run with
  | refl => exact hs
  | tail _ step ih => exact step.dormant ih

/-! ## Observers that can be timed -/

/-- Remote ends that know the last processed height of a chain, and nothing else. -/
def knowing (height : UInt64) : Ends Unit where
  accept _ _ _ := (0, ())
  answer
    | _, .recordedHeight _, _ => (.ok height, ())
    | _, q, _ => (q.failed, ())

/-- An agent that is due may act by its ends. -/
theorem step_acted (chain : ChainId) (height : UInt64) {s : Operation Unit} {a : Agent}
    {before after : List Agent} (pass : s.MayPass horizon)
    (running : s.supervisor.cancelled = false)
    (agents : s.supervisor.agents = before ++ a :: after) (due : a.isDue s.now = true) :
    Step chain (knowing height) horizon s (s.acted chain (knowing height) before a after
      (fun _ => 0) (fun q => ((knowing height).answer s.now q ()).1)) :=
  .act _ _ pass running agents due fun _ => ⟨fun _ _ => .refl _, fun _ => rfl⟩

/-- An observer that can be timed and was set to work asks the ledger, and takes its answer for the
watermark of its chain, whether anybody holds it or not. -/
theorem exists_run_initialized (shutdownTimeout now : Nat) {observers : List Observer}
    {o : Observer} (ho : o ∈ observers) (timed : o.pollInterval ≠ 0) (height : UInt64)
    (hheight : height ≠ 0) : ∃ t, Run o.chain (knowing height) (now + 1)
      ⟨now, .running shutdownTimeout now observers, (), [], []⟩ t ∧
        t.calls = [⟨now, o.chain, .recordedHeight o.chain⟩] ∧
        t.supervisor.shared.watermark? o.chain = some height := by
  obtain ⟨before, after, rfl⟩ := List.append_of_mem ho
  let stand (a : Agent) (calls : List Rehearsal.Call) : Operation Unit :=
    ⟨now, { Supervisor.empty shutdownTimeout with
      agents := before.map (Agent.spawn · now) ++ a :: after.map (Agent.spawn · now) },
      (), calls, []⟩
  have hstart : (⟨now, .running shutdownTimeout now (before ++ o :: after), (), [], []⟩ :
      Operation Unit) = stand (.spawn o now) [] := by
    simp [Supervisor.running, stand]
  have pass (a : Agent) (calls : List Rehearsal.Call) : (stand a calls).MayPass (now + 1) :=
    mayPass_of_orders_nil (Nat.lt_succ_self now) (Supervisor.isSettled_of_running rfl) rfl
  -- the first tick begins, and the ledger is asked
  have first := step_acted o.chain height (pass (.spawn o now) []) rfl rfl
    (decide_eq_true (Nat.le_refl now))
  have hasked : (stand (.spawn o now) []).acted o.chain (knowing height)
      (before.map (Agent.spawn · now)) (.spawn o now) (after.map (Agent.spawn · now)) (fun _ => 0)
      (fun q => ((knowing height).answer now q ()).1) =
      stand (.asking o now now) [⟨now, o.chain, .recordedHeight o.chain⟩] := by
    unfold acted
    rw [show (stand (.spawn o now) []).supervisor.shared = .empty from rfl,
      Agent.act_spawn timed _ _ _ rfl]
    rfl
  -- the ledger answers
  have second := step_acted o.chain height
    (pass (.asking o now now) [⟨now, o.chain, .recordedHeight o.chain⟩]) rfl rfl
    (decide_eq_true (Nat.le_refl now))
  obtain ⟨hidle, hwatermark⟩ := Agent.act_asking o now now (fun _ => 0)
    (fun q => ((knowing height).answer now q ()).1) .empty hheight rfl
  refine ⟨_, .tail (.single (hstart ▸ hasked ▸ first)) second, ?_, hwatermark⟩
  exact calls_acted_of_idle hidle

end Operation

namespace Supervisor

/-- **Observers that nobody holds are harmless exactly when none of them can be timed.** -/
theorem isHarmless_running_iff (shutdownTimeout now : Nat) (observers : List Observer) :
    (running shutdownTimeout now observers).IsHarmless now ↔
      ∀ o ∈ observers, o.pollInterval = 0 := by
  constructor
  · intro harmless o ho
    by_contra timed
    obtain ⟨t, run, hcalls, -⟩ := Operation.exists_run_initialized shutdownTimeout now ho timed
      1 (by decide)
    rw [(harmless _ _ _ _ _ _ run).1] at hcalls
    cases hcalls
  · intro hpoll σ chain ends r horizon t run
    have hdormant : (Operation.mk now (running shutdownTimeout now observers) r [] []).Dormant := by
      refine ⟨?_, rfl, rfl, fun c => rfl⟩
      intro a ha
      obtain ⟨o, ho, rfl⟩ := List.mem_map.1 ha
      exact ⟨hpoll o ho, rfl⟩
    have h := run.dormant hdormant
    exact ⟨h.calls, h.watermarks⟩

/-! ## Starts that fail -/

/-- Observers that were made of settings are harmless exactly when no time is set between their
ticks. -/
theorem isHarmless_running_iff_of_made {unhealthyAfter : UInt32} {shutdownTimeout now : Nat}
    {chains : List (ChainId × ChainSettings)} {observers : List Observer}
    (made : List.Forall₂ (Makes unhealthyAfter) chains observers) :
    (running shutdownTimeout now observers).IsHarmless now ↔
      ∀ e ∈ chains, e.2.pollIntervalSeconds = 0 := by
  have hmap : chains.map (fun e => e.2.pollInterval) = observers.map (fun o => o.pollInterval) :=
    map_eq_map_of_forall₂ made fun _ _ h => h.pollInterval
  have hseconds : (∀ e ∈ chains, e.2.pollIntervalSeconds = 0) ↔
      ∀ n ∈ chains.map (fun e => e.2.pollInterval), n = 0 := by
    rw [List.forall_mem_map]
    exact ⟨fun h e he => (pollInterval_eq_zero_iff e.2).2 (h e he),
      fun h e he => (pollInterval_eq_zero_iff e.2).1 (h e he)⟩
  rw [isHarmless_running_iff, hseconds, hmap, List.forall_mem_map]

/-- **What a failed start leaves behind**: the observers of the chains before the first that cannot
be made, at work, and nobody who could stop them. They make no calls and set no watermark exactly
when none of them has time between its ticks, as no valid settings have it. -/
theorem failed_start_leaves {settings : Settings} {only : Option (List ChainId)} {now : Nat}
    {f : Fault} (failed : (start settings only now).fault = some f) :
    ∃ before rest observers, settings.enabledChains only = before ++ rest ∧
      List.Forall₂ (Makes settings.global.unhealthyAfterFailures) before observers ∧
      (start settings only now).supervisor =
        running (settings.global.shutdownTimeoutSeconds.toNat * 1000) now observers ∧
      ((before = [] ∧ rest = [] ∧ f = .internal "No enabled chains to observe") ∨
        ∃ e after, rest = e :: after ∧
          Observer.connected e.1 e.2 settings.global.unhealthyAfterFailures = .error f) ∧
      ((start settings only now).supervisor.IsHarmless now ↔
        ∀ e ∈ before, e.2.pollIntervalSeconds = 0) := by
  have h := starts_start settings only now
  generalize settings.enabledChains only = chains at h ⊢
  cases hresult : start settings only now with
  | mk supervisor fault =>
    rw [hresult] at h failed
    cases h with
    | nothing =>
      cases failed
      have made : List.Forall₂ (Makes settings.global.unhealthyAfterFailures) [] [] := .nil
      exact ⟨[], [], [], rfl, made, rfl, .inl ⟨rfl, rfl, rfl⟩, isHarmless_running_iff_of_made made⟩
    | all made => cases failed
    | @part before rest e observers f' made fault =>
      cases failed
      exact ⟨before, e :: rest, observers, rfl, made, rfl, .inr ⟨e, rest, rfl, fault⟩,
        isHarmless_running_iff_of_made made⟩

/-- Settings of a chain without an endpoint. -/
def sampleUnreachable : ChainSettings := { ChainSettings.standard with endpoint := "not a url" }

/-- Settings of two chains, of which the second has no endpoint. -/
def sampleSettings : Settings :=
  { Settings.standard 1 with
    chains := [(⟨"goerli"⟩, .standard), (⟨"mumbai"⟩, sampleUnreachable)] }

/-- The wording of an endpoint that is no URL. -/
def sampleFault : Fault :=
  .settings "Invalid RPC endpoint for chain mumbai: relative URL without a base"

theorem start_sampleSettings : ∃ o, Makes 5 (⟨"goerli"⟩, .standard) o ∧
    start sampleSettings none 0 = ⟨running 30000 0 [o], some sampleFault⟩ := by
  obtain ⟨c, o, hc, ho⟩ := ChainSettings.exists_connected ⟨"goerli"⟩ 10 5
  have hgoerli : Observer.connected ⟨"goerli"⟩ .standard 5 = .ok (c, o) :=
    Observer.connected_eq_ok_iff.2 ⟨hc, ho⟩
  have hmumbai : Observer.connected ⟨"mumbai"⟩ sampleUnreachable 5 = .error sampleFault := by
    have h : Rpc.Connector.ofSettings ⟨"mumbai"⟩ sampleUnreachable = .error sampleFault := by
      decide +kernel
    rw [Observer.connected, h]
    rfl
  have hchains : sampleSettings.enabledChains none = sampleSettings.chains :=
    List.mergeSort_of_pairwise (by simp [sampleSettings]; decide)
  refine ⟨o, ⟨c, hgoerli⟩, ?_⟩
  unfold start
  rw [hchains]
  show (empty 30000).spawnAll 5 0 [(⟨"goerli"⟩, .standard), (⟨"mumbai"⟩, sampleUnreachable)] = _
  rw [spawnAll, hgoerli]
  show ((empty 30000).spawn o 0).spawnAll 5 0 [(⟨"mumbai"⟩, sampleUnreachable)] = _
  rw [spawnAll, hmumbai]
  rfl

/-- The sample's start fails at its second chain. -/
theorem failed_start_leaves_sample : (start sampleSettings none 0).fault = some sampleFault ∧
    ∃ before rest, sampleSettings.enabledChains none = before ++ rest ∧
      ((start sampleSettings none 0).supervisor.IsHarmless 0 ↔
        ∀ e ∈ before, e.2.pollIntervalSeconds = 0) := by
  obtain ⟨o, -, heq⟩ := start_sampleSettings
  have failed : (start sampleSettings none 0).fault = some sampleFault :=
    congrArg StartResult.fault heq
  obtain ⟨before, rest, observers, hchains, -, -, -, hharmless⟩ := failed_start_leaves failed
  exact ⟨failed, before, rest, hchains, hharmless⟩

/-- The start fails for want of an endpoint of the second chain, and yet the observer of the first
asks the ledger, which knows block 42, and sets the watermark to it. -/
theorem failed_start_observes :
    (start sampleSettings none 0).fault = some sampleFault ∧
      ¬(start sampleSettings none 0).supervisor.IsHarmless 0 ∧
      ∃ t, Operation.Run ⟨"goerli"⟩ (Operation.knowing 42) 1
        ⟨0, (start sampleSettings none 0).supervisor, (), [], []⟩ t ∧
          t.calls = [⟨0, ⟨"goerli"⟩, .recordedHeight ⟨"goerli"⟩⟩] ∧
          t.supervisor.shared.watermark? ⟨"goerli"⟩ = some 42 := by
  obtain ⟨o, hmade, heq⟩ := start_sampleSettings
  obtain ⟨schema, contract, -, -, ho⟩ := Observer.ofSettings_eq_ok_iff.1 hmade.ofSettings
  have timed : o.pollInterval ≠ 0 := by
    rw [ho]
    show ChainSettings.standard.pollInterval ≠ 0
    decide
  obtain ⟨t, run, hcalls, hwatermark⟩ := Operation.exists_run_initialized 30000 0
    (List.mem_singleton_self o) timed 42 (by decide)
  rw [ho] at run hcalls hwatermark
  rw [heq, ho]
  refine ⟨rfl, ?_, t, run, hcalls, hwatermark⟩
  intro harmless
  rw [(harmless _ _ _ _ _ _ run).1] at hcalls
  cases hcalls

end Supervisor

end BridgeWatch
