import BridgeWatch.Proofs.Observer.Relaying
import BridgeWatch.Proofs.Totals

/-!
# The books of an observer

What the ledger accepts and what an observer fails to relay is counted three times: as it happens,
by kind and in the published counters, and at the end of the tick in the observer's own counters. A
tick that is held ends without the last of these.

* `Balanced` is how far the counts agree at any moment: the observer's counters lack what the ticks
  that were held had relayed, and what the current tick has dealt with. Each step of a tick keeps
  the books balanced (`balanced_resumeTick`), and so does each run (`History.balanced`).
* `History.counts`: what this comes to after a run of ticks.
-/

namespace BridgeWatch

open TickEvent

/-- How many events a tick had relayed when it was held. -/
def TickResult.held? : TickResult → Option Nat
  | .ok (.held _ forwarded _) => some forwarded
  | _ => none

theorem TickResult.tally_of_idle {result : TickResult} (h : result.applied? = none) :
    result.tally = .zero := by
  unfold tally
  split
  · cases h
  · rfl

@[simp]
theorem Shared.totals_ended (s : Shared) (chain : ChainId) (result : TickResult) :
    (s.ended chain result).totals =
      { s.totals with
        ticks := s.totals.ticks + 1
        connectionFailures := s.totals.connectionFailures + result.isConnection.toNat } := by
  unfold ended
  cases result.isConnection <;> simp

/-- How many events the tick of an episode had relayed when it was held. -/
def Episode.held? (i : Episode) : Option Nat := i.result?.bind TickResult.held?

/-- What a tick has dealt with where it waits. -/
def Phase.tally : Phase → Tally
  | relay _ tally _ _ _ => tally
  | lookup | firstHead | head _ | fetch _ => .zero

/-- The books of an observer after the ledger has accepted `accepted` submissions. The ticks that
were held had relayed the numbers `held`; the current tick has dealt with `tally`. -/
structure Balanced (o : Observer) (accepted : Nat) (held : List Nat) (tally : Tally)
    (c : ObserverCounters) (t : Totals) : Prop where
  relayed : t.relayed = accepted
  published : t.forwarded = accepted
  forwarded : c.eventsForwarded + held.sum + tally.forwarded = accepted
  skipped : c.eventsSkipped + held.length + tally.skipped = t.skipped
  ticks : c.ticks = t.ticks
  connectionFailures : c.connectionFailures = t.connectionFailures
  /-- Under the hold policy a tick goes on only if it has skipped nothing. -/
  unskipped : o.policy = .hold → tally.skipped = 0
  /-- No tick is held but under the hold policy. -/
  unheld : o.policy = .hold ∨ held = []

/-- The books of an observer and of what it shares. -/
def View.Balanced (o : Observer) (accepted : Nat) (held : List Nat) (tally : Tally) (v : View) :
    Prop :=
  BridgeWatch.Balanced o accepted held tally v.progress.status.counters v.shared.totals

/-- The books after a step. -/
def TickStep.Balanced (o : Observer) (accepted : Nat) (held : List Nat) : TickStep → Prop
  | waiting p v => v.Balanced o accepted held p.tally
  | finished result v => v.Balanced o accepted (held ++ result.held?.toList) .zero

namespace Observer

variable {o : Observer} {accepted : Nat} {held : List Nat} {tally : Tally} {v : View} {w : Window}

/-! ## What keeps the books balanced -/

/-- An event is relayed. -/
theorem balanced_recordRelayed (h : v.Balanced o accepted held tally) (event : Event) :
    (View.mk v.progress (v.shared.recordRelayed event)).Balanced o (accepted + 1) held
      { tally with forwarded := tally.forwarded + 1 } := by
  obtain ⟨hrelayed, hpublished, hforwarded, hskipped, hticks, hfailures, hu, hh⟩ := h
  unfold View.Balanced
  rw [Shared.totals_recordRelayed]
  refine ⟨?_, ?_, ?_, hskipped, hticks, hfailures, hu, hh⟩
  · rw [hrelayed]
  · rw [hpublished]
  · dsimp only
    omega

/-- An entry is skipped. -/
theorem balanced_skip (ho : o.policy = .skip) (h : v.Balanced o accepted held tally) (f : Fault) :
    (o.countSkipped f v).Balanced o accepted held { tally with skipped := tally.skipped + 1 } := by
  obtain ⟨hrelayed, hpublished, hforwarded, hskipped, hticks, hfailures, hu, hh⟩ := h
  unfold View.Balanced countSkipped View.modifyShared
  rw [Shared.totals_count_eventsSkipped]
  refine ⟨hrelayed, hpublished, hforwarded, ?_, hticks, hfailures, ?_, hh⟩
  · dsimp only
    omega
  · rw [ho]
    nofun

/-- An entry holds the tick. -/
theorem balanced_hold (ho : o.policy = .hold) (h : v.Balanced o accepted held tally) (f : Fault)
    (message : String) :
    (o.finishTick (.ok (.held w tally.forwarded message)) (o.countSkipped f v)).Balanced o
      accepted held := by
  obtain ⟨hrelayed, hpublished, hforwarded, hskipped, hticks, hfailures, hu, hh⟩ := h
  have hnone := hu ho
  rw [finishTick_eq_finished]
  show BridgeWatch.Balanced o accepted (held ++ [tally.forwarded]) .zero
    (v.progress.status.counters.after _) (Shared.ended (v.shared.count _) _ _).totals
  rw [Shared.totals_ended, Shared.totals_count_eventsSkipped]
  refine ⟨hrelayed, hpublished, ?_, ?_, congrArg (· + 1) hticks, hfailures, fun _ => rfl, ?_⟩
  · rw [List.sum_append_nat, List.sum_singleton]
    simp only [ObserverCounters.after, TickResult.tally, Tally.zero]
    omega
  · rw [List.length_append, List.length_singleton]
    simp only [ObserverCounters.after, TickResult.tally, Tally.zero]
    omega
  · exact .inl ho

/-- A window is applied. -/
theorem balanced_applied (h : v.Balanced o accepted held tally) :
    (o.finishTick (.ok (.applied w tally)) v).Balanced o accepted held := by
  obtain ⟨hrelayed, hpublished, hforwarded, hskipped, hticks, hfailures, hu, hh⟩ := h
  rw [finishTick_eq_finished]
  show BridgeWatch.Balanced o accepted (held ++ []) .zero (v.progress.status.counters.after _)
    (v.shared.ended _ _).totals
  rw [Shared.totals_ended, List.append_nil]
  refine ⟨hrelayed, hpublished, ?_, ?_, congrArg (· + 1) hticks, hfailures, fun _ => rfl, hh⟩
  · simp only [ObserverCounters.after, TickResult.tally, Tally.zero]
    omega
  · simp only [ObserverCounters.after, TickResult.tally, Tally.zero]
    omega

/-- A tick ends that has dealt with no entry. -/
theorem balanced_finishTick {result : TickResult} (h : v.Balanced o accepted held .zero)
    (ha : result.applied? = none) (hh : result.held? = none) :
    (o.finishTick result v).Balanced o accepted held := by
  have hfailures := congrArg (· + result.isConnection.toNat) h.connectionFailures
  rw [finishTick_eq_finished]
  show BridgeWatch.Balanced o accepted (held ++ result.held?.toList) .zero
    (v.progress.status.counters.after result) (v.shared.ended o.chain result).totals
  rw [Shared.totals_ended, hh, Option.toList_none, List.append_nil, ObserverCounters.after,
    TickResult.tally_of_idle ha]
  exact { h with ticks := congrArg (· + 1) h.ticks, connectionFailures := hfailures }

/-! ## Steps -/

theorem balanced_initializeAt (h : v.Balanced o accepted held .zero) (height : UInt64) :
    (o.initializeAt height v).Balanced o accepted held := by
  have hset : (v.modifyShared (·.setWatermark o.chain height)).Balanced o accepted held .zero := by
    show BridgeWatch.Balanced _ _ _ _ _ (v.shared.setWatermark o.chain height).totals
    rwa [Shared.totals_setWatermark]
  exact balanced_finishTick hset rfl rfl

theorem balanced_afterHead (h : v.Balanced o accepted held .zero) (watermark : UInt64)
    (answer : Except Fault UInt64) :
    (o.afterHead watermark answer v).Balanced o accepted held := by
  cases answer with
  | error f => exact balanced_finishTick h rfl rfl
  | ok head =>
    have hrecord : View.Balanced o accepted held .zero
        ((v.modifyStatus fun s => { s with lastHead := some head }).modifyShared
          (·.recordHead o.chain head)) := by
      show BridgeWatch.Balanced _ _ _ _ _ (v.shared.recordHead o.chain head).totals
      rwa [Shared.totals_recordHead]
    simp only [afterHead]
    split
    · exact balanced_finishTick hrecord rfl rfl
    · exact hrecord

theorem balanced_applyWindow (hw : ∃ m, v.watermark? o.chain = some m ∧ w.Follows m)
    (h : v.Balanced o accepted held tally) :
    (o.applyWindow w tally v).Balanced o accepted held := by
  obtain ⟨m, hm, hf⟩ := hw
  have hm : v.shared.watermarks.get? o.chain = some m := hm
  have hforward : ¬w.last < m := UInt64.not_lt.2 (UInt64.le_of_lt hf.lt_last)
  unfold applyWindow
  split
  · rename_i f hrefused
    simp [Shared.advance, WatermarkStore.advance, hm, hforward] at hrefused
  · rename_i shared hs
    refine balanced_applied ?_
    show BridgeWatch.Balanced o accepted held tally v.progress.status.counters shared.totals
    rwa [Shared.totals_of_advance hs]

theorem balanced_relayEntries (hw : ∃ m, v.watermark? o.chain = some m ∧ w.Follows m)
    (entries : List LogEntry) (h : v.Balanced o accepted held tally) :
    (o.relayEntries w tally entries v).Balanced o accepted held := by
  induction entries generalizing tally v with
  | nil => exact balanced_applyWindow hw h
  | cons e entries ih =>
    rw [relayEntries]
    cases hc : o.classify e with
    | ignored => exact ih hw { h with }
    | submitted event s => exact h
    | failed f =>
      dsimp only
      cases ho : o.policy with
      | hold => exact balanced_hold ho h f _
      | skip => exact ih hw (balanced_skip ho h f)

theorem balanced_afterSubmission (hw : ∃ m, v.watermark? o.chain = some m ∧ w.Follows m)
    (event : Event) (s : Submission) (rest : List LogEntry) (answer : Except Fault CorrelationId)
    (h : v.Balanced o accepted held tally) :
    (o.afterSubmission w tally event rest answer v).Balanced o
      (accepted + (acceptances [.answered (.submit s) answer]).length) held := by
  cases answer with
  | ok id =>
    exact balanced_relayEntries (v := ⟨v.progress, v.shared.recordRelayed event⟩) hw rest
      (balanced_recordRelayed h event)
  | error f =>
    rw [afterSubmission_error]
    cases ho : o.policy with
    | hold => exact balanced_hold ho h _ _
    | skip =>
      exact balanced_relayEntries (v := o.countSkipped f.asSubmission v) hw rest
        (balanced_skip ho h _)

/-- **A step of a tick keeps the books balanced**, when the watermark is still what the tick has
read. -/
theorem balanced_resumeTick {p : Phase} (hp : p.Fits (v.watermark? o.chain))
    (reply : (p.request o).Reply) (h : v.Balanced o accepted held p.tally) :
    (o.resumeTick v p reply).Balanced o
      (accepted + (acceptances [.answered (p.request o) reply]).length) held := by
  cases p with
  | lookup =>
    simp only [resumeTick]
    split
    · exact balanced_initializeAt h _
    · exact h
  | firstHead =>
    simp only [resumeTick]
    split
    · exact balanced_initializeAt h _
    · exact balanced_finishTick h rfl rfl
  | head watermark => exact balanced_afterHead h watermark reply
  | fetch w =>
    cases reply with
    | ok entries => exact balanced_relayEntries (v := v.setState .applying) hp entries h
    | error f =>
      simp only [resumeTick, afterFetch]
      refine balanced_finishTick ?_ rfl rfl
      split
      · exact h
      · exact h
  | relay w tally event s rest => exact balanced_afterSubmission hp event s rest reply h

/-! ## Runs -/

theorem Trace.balanced {s t : TickStep} {es : List TickEvent} {before : Option UInt64}
    (h : o.Trace s es t) (hu : Undisturbed es) (hs : s.Fits o.chain before)
    (hb : s.Balanced o accepted held) :
    t.Balanced o (accepted + (acceptances es).length) held := by
  induction h generalizing accepted with
  | refl => exact hb
  | @answered p v es t reply rest ih =>
    obtain ⟨rfl, hp⟩ := hs
    have hstep := balanced_resumeTick hp reply hb
    have hrest := ih (undisturbed_answered_cons.1 hu) (fits_resumeTick hp rfl reply) hstep
    rwa [Nat.add_assoc, ← List.length_append, acceptances, acceptances,
      ← List.filterMap_append] at hrest
  | overridden height rest => exact absurd hu not_undisturbed_overridden_cons

/-- **The books are balanced after each tick of a run.** -/
theorem History.balanced {w : WatermarkStore} {is : List Episode}
    (h : o.History ⟨o.initialProgress, ⟨w, .zero, .empty⟩⟩ is v)
    (quiet : ∀ i ∈ is, i.IsQuietTick) :
    v.Balanced o (is.flatMap Episode.acceptances).length (is.filterMap Episode.held?) .zero := by
  induction h with
  | nil => exact ⟨rfl, rfl, rfl, rfl, rfl, rfl, fun _ => rfl, .inr rfl⟩
  | @tick is u v es result before run ih =>
    simp only [List.forall_mem_append, List.forall_mem_singleton] at quiet
    have ih := ih quiet.1
    have hstart : (o.startTick u).Balanced o (is.flatMap Episode.acceptances).length
        (is.filterMap Episode.held?) := by
      rw [startTick_eq]
      split
      · exact ih
      · exact ih
    have hend := run.balanced quiet.2 (o.fits_startTick u) hstart
    rw [Episode.filterMap_concat, List.flatMap_append, List.flatMap_singleton, List.length_append]
    exact hend
  | dropped | restart | overridden =>
    simp only [List.forall_mem_append, List.forall_mem_singleton] at quiet
    exact quiet.2.elim

/-- **What the counters come to after a run.** The counts by kind and the published counter both
tell how many submissions the ledger has accepted; the observer's own counter lacks what the ticks
that were held had relayed, and its counter of skipped entries lacks one for each of these ticks.
The counters of ticks and of failed connections agree with the published ones. No tick is held but
under the hold policy. -/
theorem History.counts {w : WatermarkStore} {is : List Episode}
    (run : o.History ⟨o.initialProgress, ⟨w, .zero, .empty⟩⟩ is v)
    (quiet : ∀ i ∈ is, i.IsQuietTick) :
    v.shared.relayed.total = (is.flatMap Episode.acceptances).length ∧
      v.shared.metrics.total "observer_events_forwarded_total" =
        (is.flatMap Episode.acceptances).length ∧
      v.progress.status.counters.eventsForwarded + (is.filterMap Episode.held?).sum =
        (is.flatMap Episode.acceptances).length ∧
      v.progress.status.counters.eventsSkipped + (is.filterMap Episode.held?).length =
        v.shared.metrics.total "observer_events_skipped_total" ∧
      v.progress.status.counters.ticks = v.shared.metrics.total "observer_ticks_total" ∧
      v.progress.status.counters.connectionFailures =
        v.shared.metrics.total "observer_connection_failures_total" ∧
      (o.policy = .hold ∨ is.filterMap Episode.held? = []) := by
  have h := run.balanced quiet
  exact ⟨h.relayed, h.published, h.forwarded, h.skipped, h.ticks, h.connectionFailures, h.unheld⟩

/-- A tick that initializes the chain, and one that is held by the second of two logs. -/
def sampleHeld : List Episode :=
  [.tick [.answered (.recordedHeight ⟨"sample"⟩) (.ok 5)] (.ok (.initialized 5)),
    .tick [.answered .head (.ok 8), .answered (.logs ⟨2⟩ ⟨6, 8⟩) (.ok [.sample, .sample]),
      .answered (.submit .sample) (.ok ⟨"id"⟩), .answered (.submit .sample) (.error default)]
      (.ok (.held ⟨6, 8⟩ 1 (Fault.asSubmission default).message))]

set_option maxRecDepth 4000 in
theorem exists_history_sampleHeld :
    ∃ v, (sample .hold).History (sample .hold).initialView sampleHeld v :=
  ⟨_, .tick (.tick .nil (trace_iff_follow.2 rfl)) (trace_iff_follow.2 rfl)⟩

theorem quiet_sampleHeld : ∀ i ∈ sampleHeld, i.IsQuietTick := by
  simp [sampleHeld, Episode.IsQuietTick]

/-- Under the hold policy the run has one event relayed that the observer does not count. -/
theorem counts_sampleHeld : ∃ v, (sample .hold).History (sample .hold).initialView sampleHeld v ∧
    v.shared.relayed.total = 1 ∧ v.progress.status.counters.eventsForwarded + 1 = 1 := by
  obtain ⟨v, run⟩ := exists_history_sampleHeld
  obtain ⟨hrelayed, -, hforwarded, -⟩ := History.counts run quiet_sampleHeld
  exact ⟨v, run, hrelayed, hforwarded⟩

/-- The observer's counters and the published ones disagree. -/
theorem counters_disagree : ∃ v,
    (sample .hold).History (sample .hold).initialView sampleHeld v ∧
      (∀ i ∈ sampleHeld, i.IsQuietTick) ∧
      v.progress.status.counters.eventsForwarded ≠
        (sampleHeld.flatMap Episode.acceptances).length ∧
      v.progress.status.counters.eventsSkipped ≠
        v.shared.metrics.total "observer_events_skipped_total" := by
  obtain ⟨v, run⟩ := exists_history_sampleHeld
  have h := run.balanced quiet_sampleHeld
  refine ⟨v, run, quiet_sampleHeld, ?_, ?_⟩
  · have hforwarded : v.progress.status.counters.eventsForwarded + 1 =
        (sampleHeld.flatMap Episode.acceptances).length := h.forwarded
    omega
  · have hskipped : v.progress.status.counters.eventsSkipped + 1 =
        v.shared.metrics.total "observer_events_skipped_total" := h.skipped
    omega

end Observer

end BridgeWatch
