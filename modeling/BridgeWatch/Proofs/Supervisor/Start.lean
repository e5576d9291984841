import BridgeWatch.Proofs.Settings.Validation
import BridgeWatch.Proofs.Supervisor.Schedule

/-!
# Starts

* `Supervisor.Starts` says how a start goes: there is nothing to observe, or every chain gets its
  observer, or the chains before the first that cannot be made do (`starts_start`).
* `Supervisor.Observes`: one observer is at work for each enabled chain that was asked for, with
  time between its ticks and a window within the bounds of its settings. This is kept
  (`Observes.run`).
* `Supervisor.valid_start`: which settings are valid, and that of valid settings a start fails only
  if there is nothing to observe.
-/

namespace BridgeWatch

/-- Lists that are related entry by entry agree in what related entries agree in. -/
theorem map_eq_map_of_forall₂ {α β γ : Type} {R : α → β → Prop} {xs : List α} {ys : List β}
    (h : List.Forall₂ R xs ys) {f : α → γ} {g : β → γ} (hR : ∀ x y, R x y → f x = g y) :
    xs.map f = ys.map g := by
  have hmaps : List.Forall₂ (fun a b => a = b) (xs.map f) (ys.map g) :=
    List.rel_map (fun x y => hR x y) h
  rwa [List.forall₂_eq_eq_eq] at hmaps

namespace Supervisor

/-- An observer is what a start makes of a chain and its settings. -/
def Makes (unhealthyAfter : UInt32) (e : ChainId × ChainSettings) (o : Observer) : Prop :=
  ∃ c, Observer.connected e.1 e.2 unhealthyAfter = .ok (c, o)

theorem Makes.ofSettings {unhealthyAfter : UInt32} {e : ChainId × ChainSettings} {o : Observer}
    (h : Makes unhealthyAfter e o) : Observer.ofSettings e.1 e.2 unhealthyAfter = .ok o := by
  obtain ⟨c, hc⟩ := h
  exact (Observer.connected_eq_ok_iff.1 hc).2

theorem Makes.pollInterval {unhealthyAfter : UInt32} {e : ChainId × ChainSettings} {o : Observer}
    (h : Makes unhealthyAfter e o) : e.2.pollInterval = o.pollInterval := by
  obtain ⟨schema, contract, -, -, rfl⟩ := Observer.ofSettings_eq_ok_iff.1 h.ofSettings
  rfl

theorem pollInterval_eq_zero_iff (s : ChainSettings) :
    s.pollInterval = 0 ↔ s.pollIntervalSeconds = 0 := by
  rw [ChainSettings.pollInterval, ← UInt64.toNat_inj, show (0 : UInt64).toNat = 0 from rfl]
  omega

/-- Some observers that were set to work at the same time. -/
def running (shutdownTimeout now : Nat) (observers : List Observer) : Supervisor :=
  { empty shutdownTimeout with agents := observers.map (Agent.spawn · now) }

/-! ## The course of a start -/

/-- How a start goes, by the chains that it is to observe. -/
inductive Starts (unhealthyAfter : UInt32) (shutdownTimeout now : Nat) :
    List (ChainId × ChainSettings) → StartResult → Prop
  | nothing : Starts unhealthyAfter shutdownTimeout now []
      ⟨running shutdownTimeout now [], some (.internal "No enabled chains to observe")⟩
  | all {e : ChainId × ChainSettings} {rest : List (ChainId × ChainSettings)}
      {observers : List Observer}
      (made : List.Forall₂ (Makes unhealthyAfter) (e :: rest) observers) :
      Starts unhealthyAfter shutdownTimeout now (e :: rest)
        ⟨running shutdownTimeout now observers, none⟩
  /-- The chain `e` is the first that cannot be made. -/
  | part {before rest : List (ChainId × ChainSettings)} {e : ChainId × ChainSettings}
      {observers : List Observer} {f : Fault}
      (made : List.Forall₂ (Makes unhealthyAfter) before observers)
      (fault : Observer.connected e.1 e.2 unhealthyAfter = .error f) :
      Starts unhealthyAfter shutdownTimeout now (before ++ e :: rest)
        ⟨running shutdownTimeout now observers, some f⟩

/-- Observers are set to work for all chains, or for those before the first that cannot be made. -/
theorem spawnAll_cases (s : Supervisor) (unhealthyAfter : UInt32) (now : Nat)
    (chains : List (ChainId × ChainSettings)) :
    (∃ observers, List.Forall₂ (Makes unhealthyAfter) chains observers ∧
        s.spawnAll unhealthyAfter now chains =
          ⟨{ s with agents := s.agents ++ observers.map (Agent.spawn · now) }, none⟩) ∨
      ∃ before e rest observers f, chains = before ++ e :: rest ∧
        List.Forall₂ (Makes unhealthyAfter) before observers ∧
        Observer.connected e.1 e.2 unhealthyAfter = .error f ∧
        s.spawnAll unhealthyAfter now chains =
          ⟨{ s with agents := s.agents ++ observers.map (Agent.spawn · now) }, some f⟩ := by
  induction chains generalizing s with
  | nil => exact .inl ⟨[], .nil, by simp [spawnAll]⟩
  | cons e chains ih =>
    cases he : Observer.connected e.1 e.2 unhealthyAfter with
    | error f => exact .inr ⟨[], e, chains, [], f, rfl, .nil, he, by simp [spawnAll, he]⟩
    | ok made =>
      obtain ⟨c, o⟩ := made
      have hnext : s.spawnAll unhealthyAfter now (e :: chains) =
          (s.spawn o now).spawnAll unhealthyAfter now chains := by
        rw [spawnAll, he]
      rcases ih (s.spawn o now) with ⟨observers, hmade, heq⟩ |
        ⟨before, e', rest, observers, f, rfl, hmade, hfault, heq⟩
      · refine .inl ⟨o :: observers, .cons ⟨c, he⟩ hmade, ?_⟩
        rw [hnext, heq]
        simp [spawn]
      · refine .inr ⟨e :: before, e', rest, o :: observers, f, rfl, .cons ⟨c, he⟩ hmade, hfault, ?_⟩
        rw [hnext, heq]
        simp [spawn]

theorem starts_start (settings : Settings) (only : Option (List ChainId)) (now : Nat) :
    Starts settings.global.unhealthyAfterFailures
      (settings.global.shutdownTimeoutSeconds.toNat * 1000) now (settings.enabledChains only)
      (start settings only now) := by
  unfold start
  dsimp only
  split
  · rename_i h
    rw [h]
    exact .nothing
  · rename_i hne
    rcases spawnAll_cases (empty (settings.global.shutdownTimeoutSeconds.toNat * 1000))
      settings.global.unhealthyAfterFailures now (settings.enabledChains only) with
      ⟨observers, hmade, heq⟩ | ⟨before, e, rest, observers, f, hchains, hmade, hfault, heq⟩
    · rw [heq]
      cases hchains : settings.enabledChains only with
      | nil => exact absurd hchains hne
      | cons e rest => exact .all (hchains ▸ hmade)
    · rw [heq, hchains]
      exact .part hmade hfault

end Supervisor

/-! ## Windows of agents -/

namespace Agent

variable {a : Agent}

/-- The next scan of an agent is of one block at least and of its observer's maximum at most. -/
def Scans (a : Agent) : Prop :=
  1 ≤ a.progress.window ∧ a.progress.window ≤ a.observer.maxWindow

theorem scans_enter (next : Nat) (arrival : Phase → Nat) {t : TickStep}
    (h : a.observer.Scans t.view) : (a.enter next arrival t).1.Scans := by
  cases t <;> exact h

theorem Scans.act (h : a.Scans) (now : Nat) (delay : Request → Nat)
    (reply : (q : Request) → q.Reply) (s : Shared) : (a.act now delay reply s).1.Scans := by
  have ho : 1 ≤ a.observer.maxWindow := UInt64.le_trans h.1 h.2
  have hv : a.observer.Scans ⟨a.progress, s⟩ := h
  unfold Agent.act
  cases a.activity with
  | stopped => exact h
  | sleeping deadline =>
    dsimp only
    unfold wake
    split
    · exact h
    · exact scans_enter _ _ ((Observer.resizes_startTick a.observer ⟨a.progress, s⟩).scans ho hv)
  | ticking next p arrival =>
    have hresizes := Observer.resizes_resumeTick (v := ⟨a.progress, s⟩) p
      (reply (p.request a.observer)) rfl
    exact scans_enter _ _ (hresizes.scans (v := ⟨a.progress, s⟩) ho hv)

theorem Scans.cancel (h : a.Scans) : a.cancel.Scans := by
  unfold Agent.cancel
  split
  · exact h
  · split <;> exact h

theorem Scans.abort (h : a.Scans) : a.abort.Scans := by
  unfold Agent.abort
  split <;> exact h

/-- An agent observes an enabled chain as its settings say. -/
structure Serves (settings : Settings) (a : Agent) : Prop where
  made : ∃ s, (a.observer.chain, s) ∈ settings.chains ∧ s.enabled = true ∧
    Observer.ofSettings a.observer.chain s settings.global.unhealthyAfterFailures =
      .ok a.observer ∧
    a.observer.maxWindow = s.maxWindow
  /-- There is time between its ticks. -/
  timed : a.observer.pollInterval ≠ 0
  scans : a.Scans

/-- An agent goes on to do so, whatever it does. -/
theorem keeps_serves (settings : Settings) : Keeps (Serves settings) where
  act := by
    intro a now h _ delay reply s
    have hobserver := observer_act a now delay reply s
    exact ⟨hobserver.symm ▸ h.made, hobserver.symm ▸ h.timed, h.scans.act now delay reply s⟩
  cancel := by
    intro a h
    have hobserver := observer_cancel a
    exact ⟨hobserver.symm ▸ h.made, hobserver.symm ▸ h.timed, h.scans.cancel⟩

theorem Serves.abort {settings : Settings} (h : a.Serves settings) : a.abort.Serves settings := by
  have hobserver := observer_abort a
  exact ⟨hobserver.symm ▸ h.made, hobserver.symm ▸ h.timed, h.scans.abort⟩

/-- An observer that was made of sound settings is set to work as they say. -/
theorem serves_spawn {settings : Settings} {e : ChainId × ChainSettings} {o : Observer}
    (hmem : e ∈ settings.chains) (henabled : e.2.enabled = true) (hsound : e.2.IsSound)
    (hmade : Supervisor.Makes settings.global.unhealthyAfterFailures e o) (now : Nat) :
    (spawn o now).Serves settings := by
  have hof := hmade.ofSettings
  obtain ⟨schema, contract, -, -, rfl⟩ := Observer.ofSettings_eq_ok_iff.1 hof
  have hone : 1 ≤ e.2.maxWindow := by
    have hne : e.2.maxWindow.toNat ≠ 0 := fun h => hsound.maxWindow (UInt64.toNat_inj.1 h)
    rw [UInt64.le_iff_toNat_le]
    exact Nat.one_le_iff_ne_zero.2 hne
  have hmax : max e.2.maxWindow 1 = e.2.maxWindow := by
    rw [← UInt64.toNat_inj, toNat_max]
    exact Nat.max_eq_left (UInt64.le_iff_toNat_le.1 hone)
  refine ⟨⟨e.2, hmem, henabled, hof, hmax⟩, ?_, one_le_max_one _, UInt64.le_refl _⟩
  exact fun h => hsound.pollInterval ((Supervisor.pollInterval_eq_zero_iff e.2).1 h)

end Agent

/-! ## Starts of valid settings -/

namespace Supervisor

/-- One observer is at work for each chain that is enabled and was asked for. -/
structure Observes (settings : Settings) (only : Option (List ChainId)) (s : Supervisor) :
    Prop where
  /-- These are the chains … -/
  mem_chains_iff : ∀ chain, chain ∈ s.chains ↔ ∃ cs, (chain, cs) ∈ settings.chains ∧
    cs.enabled = true ∧ Settings.Selects only chain
  /-- … in the order of their identifiers, none twice. -/
  increasing : s.chains.Pairwise fun a b => a.before b = true
  serves : ∀ a ∈ s.agents, a.Serves settings

/-- They stay at work as they were set to, whatever happens. -/
theorem Observes.run {settings : Settings} {only : Option (List ChainId)} {σ : Type}
    {chain : ChainId} {ends : Ends σ} {horizon : Nat} {s t : Operation σ}
    (h : s.supervisor.Observes settings only) (run : Operation.Run chain ends horizon s t) :
    t.supervisor.Observes settings only where
  mem_chains_iff c := run.chains_eq.symm ▸ h.mem_chains_iff c
  increasing := run.chains_eq.symm ▸ h.increasing
  serves := run.forall_agents (Agent.keeps_serves settings) Agent.Serves.abort h.serves

theorem Makes.chain {unhealthyAfter : UInt32} {e : ChainId × ChainSettings} {o : Observer}
    (h : Makes unhealthyAfter e o) : e.1 = o.chain := by
  obtain ⟨schema, contract, -, -, rfl⟩ := Observer.ofSettings_eq_ok_iff.1 h.ofSettings
  rfl

/-- Observers that were made for all chains that are to be observed, observe them. -/
theorem observes_running {settings : Settings} {only : Option (List ChainId)}
    (distinct : (settings.chains.map Prod.fst).Nodup) (valid : settings.IsValid)
    {observers : List Observer} (made : List.Forall₂
      (Makes settings.global.unhealthyAfterFailures) (settings.enabledChains only) observers)
    (shutdownTimeout now : Nat) :
    (running shutdownTimeout now observers).Observes settings only := by
  have hchains : (running shutdownTimeout now observers).chains =
      (settings.enabledChains only).map Prod.fst := by
    rw [map_eq_map_of_forall₂ made fun _ _ h => h.chain]
    simp [running, chains, Function.comp_def, Agent.spawn]
  refine ⟨?_, ?_, ?_⟩
  · intro chain
    rw [hchains, List.mem_map]
    constructor
    · rintro ⟨e, he, rfl⟩
      obtain ⟨hmem, henabled, hselects⟩ := Settings.mem_enabledChains.1 he
      exact ⟨e.2, hmem, henabled, hselects⟩
    · rintro ⟨cs, hmem, henabled, hselects⟩
      exact ⟨(chain, cs), Settings.mem_enabledChains.2 ⟨hmem, henabled, hselects⟩, rfl⟩
  · rw [hchains, List.pairwise_map]
    exact Settings.pairwise_enabledChains distinct only
  · intro a ha
    obtain ⟨o, ho, rfl⟩ := List.mem_map.1 ha
    obtain ⟨e, he, hmade⟩ := exists_of_forall₂_mem made ho
    obtain ⟨hmem, henabled, -⟩ := Settings.mem_enabledChains.1 he
    exact Agent.serves_spawn hmem henabled (valid.sound e hmem henabled) hmade now

/-- Of valid settings, a start makes all observers, or there is nothing to observe. -/
theorem start_of_isValid {settings : Settings} (valid : settings.IsValid)
    (only : Option (List ChainId)) (now : Nat) :
    (settings.enabledChains only = [] ∧ ∃ f, (start settings only now).fault = some f) ∨
      (settings.enabledChains only ≠ [] ∧ (start settings only now).fault = none ∧
        ∃ observers, List.Forall₂ (Makes settings.global.unhealthyAfterFailures)
          (settings.enabledChains only) observers ∧
          (start settings only now).supervisor =
            running (settings.global.shutdownTimeoutSeconds.toNat * 1000) now observers) := by
  have hmade (e : ChainId × ChainSettings) (he : e ∈ settings.enabledChains only) :
      ∃ c o, Observer.connected e.1 e.2 settings.global.unhealthyAfterFailures = .ok (c, o) := by
    obtain ⟨hmem, henabled, -⟩ := Settings.mem_enabledChains.1 he
    exact (valid.sound e hmem henabled).connected e.1 _
  have h := starts_start settings only now
  generalize settings.enabledChains only = chains at h hmade ⊢
  cases hresult : start settings only now with
  | mk supervisor fault =>
    rw [hresult] at h
    cases h with
    | nothing => exact .inl ⟨rfl, _, rfl⟩
    | all made => exact .inr ⟨List.cons_ne_nil _ _, rfl, _, made, rfl⟩
    | @part before rest e observers f made fault =>
      obtain ⟨c, o, hok⟩ := hmade e (List.mem_append_right _ List.mem_cons_self)
      rw [fault] at hok
      cases hok

/-- **What is valid also starts.** Settings are valid exactly when the program can run with them,
whatever the order of their chains and the settings of those that are not enabled. Of valid
settings, a start fails only if no enabled chain was asked for; otherwise one observer is at work
for each such chain, in the order of their identifiers, due at once, and stays at work as it was
set to. -/
theorem valid_start {settings : Settings} (distinct : (settings.chains.map Prod.fst).Nodup) :
    (settings.validate = .ok () ↔ settings.IsValid) ∧
    (∀ settings' : Settings, settings'.global.workerThreads = settings.global.workerThreads →
      settings'.ledger.endpoint = settings.ledger.endpoint →
      (settings'.chains.filter (·.2.enabled)).Perm (settings.chains.filter (·.2.enabled)) →
      (settings'.validate = .ok () ↔ settings.validate = .ok ())) ∧
    (settings.validate = .ok () → ∀ only now,
      ((start settings only now).fault ≠ none ↔
        ∀ chain s, (chain, s) ∈ settings.chains → s.enabled = true →
          ¬Settings.Selects only chain) ∧
      ((start settings only now).fault = none →
        (∀ a ∈ (start settings only now).supervisor.agents, a.isDue now = true) ∧
        ∀ (σ : Type) (chain : ChainId) (ends : Ends σ) (horizon : Nat) (r : σ)
          (orders : List (Nat × Order)) (t : Operation σ), Operation.Run chain ends horizon
            ⟨now, (start settings only now).supervisor, r, [], orders⟩ t →
          t.supervisor.Observes settings only)) := by
  refine ⟨settings.validate_eq_ok_iff, fun _ => Settings.validate_congr, ?_⟩
  intro hvalidate only now
  have valid := settings.validate_eq_ok_iff.1 hvalidate
  rcases start_of_isValid valid only now with ⟨hnone, f, hfault⟩ |
    ⟨hsome, hfault, observers, made, hsupervisor⟩
  · refine ⟨?_, fun h => ?_⟩
    · refine iff_of_true (by rw [hfault]; simp) ?_
      intro chain s hmem henabled hselects
      have := Settings.mem_enabledChains.2 ⟨hmem, henabled, hselects⟩
      rw [hnone] at this
      cases this
    · rw [hfault] at h
      cases h
  · refine ⟨?_, fun _ => ⟨?_, ?_⟩⟩
    · refine iff_of_false (by rw [hfault]; simp) ?_
      intro hnot
      obtain ⟨e, he⟩ := List.exists_mem_of_ne_nil _ hsome
      obtain ⟨hmem, henabled, hselects⟩ := Settings.mem_enabledChains.1 he
      exact hnot e.1 e.2 hmem henabled hselects
    · rw [hsupervisor]
      intro a ha
      obtain ⟨o, -, rfl⟩ := List.mem_map.1 ha
      exact decide_eq_true (Nat.le_refl now)
    · intro σ chain ends horizon r orders t run
      rw [hsupervisor] at run
      exact (observes_running distinct valid made _ now).run run

/-- Settings of one chain, of which nothing is configured, and of one that is not enabled. -/
def sampleValid : Settings :=
  { Settings.standard 1 with
    chains := [(⟨"goerli"⟩, .standard),
      (⟨"mumbai"⟩, { ChainSettings.standard with enabled := false, endpoint := "not a url" })] }

theorem isValid_sampleValid : sampleValid.IsValid where
  workerThreads := by decide
  ledger := isOk_iff_exists.1 (by decide +kernel)
  someEnabled := ⟨_, List.mem_cons_self, rfl⟩
  sound := by
    intro e he henabled
    rcases List.mem_cons.1 he with rfl | he
    · exact ChainSettings.isSound_standard
    · obtain rfl := List.mem_singleton.1 he
      cases henabled

/-- The settings are valid, and the first chain is observed. -/
theorem valid_start_sample : sampleValid.validate = .ok () ∧
    (start sampleValid none 0).fault = none ∧
    (start sampleValid none 0).supervisor.Observes sampleValid none := by
  have distinct : (sampleValid.chains.map Prod.fst).Nodup := by decide
  obtain ⟨hvalid, -, hstart⟩ := valid_start distinct
  have hvalidate := hvalid.2 isValid_sampleValid
  obtain ⟨hfails, hobserves⟩ := hstart hvalidate none 0
  have hfault : (start sampleValid none 0).fault = none := by
    by_contra h
    exact hfails.1 h ⟨"goerli"⟩ .standard List.mem_cons_self rfl nofun
  refine ⟨hvalidate, hfault, ?_⟩
  exact (hobserves hfault).2 Unit ⟨"goerli"⟩
    ⟨fun _ _ _ => (0, ()), fun _ q _ => (q.failed, ())⟩ 0 () [] _ .refl

end Supervisor

end BridgeWatch
