import BridgeWatch.Proofs.Observer.Relaying

/-!
# What a run of ticks covers

A run is a history of ticks that run to their end, with nobody overriding the watermark.

* `Observer.Covers is first last`: the ticks `is` initialized the chain once, at `first`, and the
  windows they applied are consecutive from there up to `last`. Under the skip policy, with an
  endpoint that answers from one set of logs, they are `Delivered`: each log behind `first` up to
  `last` was processed in one tick, and what these logs decode to was submitted once.
* `History.coverage`: every run covers the blocks from the initialized watermark to the current
  one, and the watermark never moves back.
-/

namespace BridgeWatch

open Episode

namespace Observer

/-! ## The watermark only moves forward -/

/-- The watermark of a chain that has one does not move back in a tick. -/
theorem Trace.le_watermark {o : Observer} {v v' : View} {es : List TickEvent}
    {result : TickResult} (h : o.Trace (o.startTick v) es (.finished result v'))
    (hu : Undisturbed es) {m : UInt64} (hm : v.watermark? o.chain = some m) :
    ∃ m', v'.watermark? o.chain = some m' ∧ m ≤ m' := by
  rcases h.watermark_cases hu with ⟨height, -, hn, -⟩ | ⟨m', w, tally, -, hm', hf, hw⟩ | ⟨-, -, hw⟩
  · rw [hm] at hn
    cases hn
  · rw [hm] at hm'
    cases hm'
    exact ⟨w.last, hw, UInt64.le_of_lt hf.lt_last⟩
  · exact ⟨m, hw.trans hm, UInt64.le_refl m⟩

/-- The watermark of a chain that has one does not move back in a run. -/
theorem History.le_watermark {o : Observer} {v v' : View} {is : List Episode}
    (h : o.History v is v') (quiet : ∀ i ∈ is, i.IsQuietTick) {m : UInt64}
    (hm : v.watermark? o.chain = some m) : ∃ m', v'.watermark? o.chain = some m' ∧ m ≤ m' := by
  induction h with
  | nil => exact ⟨m, hm, UInt64.le_refl m⟩
  | tick before run ih =>
    simp only [List.forall_mem_append, List.forall_mem_singleton] at quiet
    obtain ⟨m', hm', hle⟩ := ih quiet.1
    obtain ⟨m'', hm'', hle'⟩ := run.le_watermark quiet.2 hm'
    exact ⟨m'', hm'', UInt64.le_trans hle hle'⟩
  | dropped | restart | overridden =>
    simp only [List.forall_mem_append, List.forall_mem_singleton] at quiet
    exact quiet.2.elim

/-! ## Delivered logs -/

/-- Some episodes have dealt with some logs, and with no others. -/
structure Delivered (o : Observer) (is : List Episode) (target : List LogEntry) : Prop where
  /-- Each of the logs was processed in exactly one tick that applied its window. -/
  processed_once : ∀ e ∈ target, is.countP (fun i => i.applied?.isSome && decide (e ∈ i.logs)) = 1
  /-- What the logs decode to was submitted, each once. -/
  submitted : (is.flatMap submissions).Perm (target.filterMap o.submission?)
  /-- No other log was ever seen. -/
  only : ∀ i ∈ is, ∀ e ∈ i.logs, e ∈ target

namespace Delivered

variable {o : Observer} {is : List Episode} {i : Episode} {target : List LogEntry}

theorem nil (o : Observer) : o.Delivered [] [] :=
  ⟨fun _ h => (List.not_mem_nil h).elim, .refl _, fun _ h => (List.not_mem_nil h).elim⟩

theorem perm (h : o.Delivered is target) {target' : List LogEntry} (hp : target.Perm target') :
    o.Delivered is target' :=
  ⟨fun e he => h.processed_once e (hp.mem_iff.2 he), h.submitted.trans (hp.filterMap _),
    fun i hi e he => hp.mem_iff.1 (h.only i hi e he)⟩

/-- An episode that saw no logs and submitted nothing. -/
theorem concat_idle (h : o.Delivered is target) (hl : i.logs = []) (hs : i.submissions = []) :
    o.Delivered (is ++ [i]) target := by
  refine ⟨?_, ?_, ?_⟩
  · intro e he
    simp [List.countP_append, h.processed_once e he, hl]
  · rw [List.flatMap_append, List.flatMap_singleton, hs, List.append_nil]
    exact h.submitted
  · simp only [List.forall_mem_append, List.forall_mem_singleton]
    refine ⟨h.only, ?_⟩
    simp [hl]

/-- An episode that applied a window with logs that were not seen before, and submitted them. -/
theorem concat_applied (h : o.Delivered is target) (ha : i.applied?.isSome = true)
    {logs : List LogEntry} (hl : i.logs.Perm logs)
    (hs : i.submissions = i.logs.filterMap o.submission?) (hd : ∀ e ∈ logs, e ∉ target) :
    o.Delivered (is ++ [i]) (target ++ logs) := by
  have once (e : LogEntry) :
      [i].countP (fun i => i.applied?.isSome && decide (e ∈ i.logs)) =
        if e ∈ logs then 1 else 0 := by
    simp [List.countP_cons, ha, hl.mem_iff]
  refine ⟨?_, ?_, ?_⟩
  · intro e he
    rw [List.countP_append, once]
    by_cases hnew : e ∈ logs
    · have hold : is.countP (fun i => i.applied?.isSome && decide (e ∈ i.logs)) = 0 := by
        rw [List.countP_eq_zero]
        intro j hj hc
        rw [Bool.and_eq_true, decide_eq_true_iff] at hc
        exact hd e hnew (h.only j hj e hc.2)
      rw [hold, if_pos hnew]
    · rw [if_neg hnew]
      exact h.processed_once e ((List.mem_append.1 he).resolve_right hnew)
  · rw [List.flatMap_append, List.flatMap_singleton, hs, List.filterMap_append]
    exact h.submitted.append (hl.filterMap _)
  · simp only [List.forall_mem_append, List.forall_mem_singleton]
    exact ⟨fun j hj e he => List.mem_append_left _ (h.only j hj e he),
      fun e he => List.mem_append_right _ (hl.mem_iff.1 he)⟩

end Delivered

/-! ## Runs -/

/-- The ticks of a run have initialized the chain at `first` and come to `last`. -/
structure Covers (o : Observer) (is : List Episode) (first last : UInt64) : Prop where
  /-- The chain was initialized once. -/
  initialized : initializations is = [first]
  /-- The windows are consecutive from `first` to `last`. -/
  tiles : Tiles first (windows is) last
  /-- Each block behind `first` up to `last` is in one window, and no other block is in any. -/
  once : ∀ height, (windows is).countP (fun w => decide (w.Contains height)) =
    if first < height ∧ height ≤ last then 1 else 0
  /-- Under the skip policy each log of these blocks was dealt with once, and no other. -/
  delivered : o.policy = .skip → ∀ all, (∀ i ∈ is, Serves all i.events) →
    o.Delivered is (logsBetween all o.contract first last)

/-- Ticks that have not initialized the chain yet and have applied nothing, or ticks that have
initialized it once and have come to a watermark through consecutive windows. -/
inductive Progression (is : List Episode) : Option UInt64 → Prop
  | uninitialized (initialized : initializations is = []) (applied : windows is = []) :
      Progression is none
  | started {first last : UInt64} (initialized : initializations is = [first])
      (tiles : Tiles first (windows is) last) : Progression is (some last)

namespace Progression

variable {is : List Episode} {i : Episode}

theorem concat_initialized {height : UInt64} (h : Progression is none)
    (hi : i.initialized? = some height) (ha : i.applied? = none) :
    Progression (is ++ [i]) (some height) := by
  cases h with
  | uninitialized initialized applied =>
    have initialized' : initializations (is ++ [i]) = [height] := by
      rw [initializations_concat, initialized, hi]
      rfl
    have applied' : windows (is ++ [i]) = [] := by
      rw [windows_concat, applied, ha]
      rfl
    refine .started initialized' ?_
    rw [applied']
    rfl

theorem concat_applied {m : UInt64} {w : Window} (h : Progression is (some m))
    (hi : i.initialized? = none) (ha : i.applied? = some w) (hw : w.Follows m) :
    Progression (is ++ [i]) (some w.last) := by
  cases h with
  | @started first last initialized tiles =>
    have initialized' : initializations (is ++ [i]) = [first] := by
      rw [initializations_concat, initialized, hi]
      rfl
    refine .started initialized' ?_
    rw [windows_concat, ha]
    exact tiles.concat hw

theorem concat_idle {watermark : Option UInt64} (h : Progression is watermark)
    (hi : i.initialized? = none) (ha : i.applied? = none) :
    Progression (is ++ [i]) watermark := by
  have initialized' : initializations (is ++ [i]) = initializations is := by
    rw [initializations_concat, hi, Option.toList_none, List.append_nil]
  have applied' : windows (is ++ [i]) = windows is := by
    rw [windows_concat, ha, Option.toList_none, List.append_nil]
  cases h with
  | uninitialized initialized applied =>
    exact .uninitialized (initialized'.trans initialized) (applied'.trans applied)
  | started initialized tiles => exact .started (initialized'.trans initialized) (applied' ▸ tiles)

end Progression

/-- **The windows of a run are consecutive** from where it initialized the chain. -/
theorem History.progression {o : Observer} {v v' : View} {is : List Episode}
    (fresh : v.watermark? o.chain = none) (h : o.History v is v')
    (quiet : ∀ i ∈ is, i.IsQuietTick) : Progression is (v'.watermark? o.chain) := by
  induction h with
  | nil =>
    rw [fresh]
    exact .uninitialized rfl rfl
  | tick before run ih =>
    simp only [List.forall_mem_append, List.forall_mem_singleton] at quiet
    have ih := ih quiet.1
    rcases run.watermark_cases quiet.2 with
        ⟨height, rfl, hn, hw⟩ | ⟨m, w, tally, rfl, hm, hf, hw⟩ | ⟨hi, ha, hw⟩
    · rw [hn] at ih
      rw [hw]
      exact ih.concat_initialized rfl rfl
    · rw [hm] at ih
      rw [hw]
      exact ih.concat_applied rfl rfl hf
    · rw [hw]
      exact ih.concat_idle hi ha
  | dropped | restart | overridden =>
    simp only [List.forall_mem_append, List.forall_mem_singleton] at quiet
    exact quiet.2.elim

/-- **Under the skip policy a run deals once with each log of its windows**, and with no other
log. -/
theorem History.delivered {o : Observer} (ho : o.policy = .skip) {v v' : View}
    {is : List Episode} (fresh : v.watermark? o.chain = none) (h : o.History v is v')
    (quiet : ∀ i ∈ is, i.IsQuietTick) {all : List LogEntry}
    (serves : ∀ i ∈ is, Serves all i.events) :
    o.Delivered is ((windows is).flatMap (logsIn all o.contract)) := by
  induction h with
  | nil => exact .nil o
  | @tick is u u' es result before run ih =>
    simp only [List.forall_mem_append, List.forall_mem_singleton] at quiet serves
    have ih := ih quiet.1 serves.1
    rw [windows_concat, List.flatMap_append]
    rcases run.tick_skip ho quiet.2 serves.2 with ⟨ha, hs, hl⟩ | ⟨w, tally, rfl, hs, hl⟩
    · have ha : (Episode.tick es result).applied? = none := ha
      rw [ha, Option.toList_none, List.flatMap_nil, List.append_nil]
      exact ih.concat_idle hl hs
    · have hprog := before.progression fresh quiet.1
      obtain ⟨hfits, -⟩ := run.of_startTick quiet.2
      obtain ⟨m, hm, hf⟩ : ∃ m, u.watermark? o.chain = some m ∧ w.Follows m := hfits
      rw [hm] at hprog
      cases hprog with
      | started initialized tiles =>
        refine ih.concat_applied rfl ?_ hs ?_
        · show (TickEvent.logs es).Perm ([w].flatMap (logsIn all o.contract))
          rwa [List.flatMap_singleton]
        · -- a log of an earlier window lies at most at the watermark that this one follows
          intro e he hold
          simp only [applied?, result?, Option.bind_some, TickResult.applied?,
            Option.toList_some, List.flatMap_singleton, mem_logsIn] at he
          simp only [List.mem_flatMap, mem_logsIn] at hold
          obtain ⟨x, hx, -, -, hc⟩ := hold
          have hle := ((tiles.mem_iff e.height).2 ⟨x, hx, hc⟩).2
          exact UInt64.not_lt.2 hle ((hf.contains_iff e.height).1 he.2.2).1
  | dropped | restart | overridden =>
    simp only [List.forall_mem_append, List.forall_mem_singleton] at quiet
    exact quiet.2.elim

/-- **No gap, no overlap, one attempt.** However the remote ends answer, a run of an observer of
which the chain has no watermark yet either has not initialized it and has done nothing, or it
covers the blocks from where it initialized the chain to the current watermark; and however it goes
on, the watermark does not move back. -/
theorem History.coverage {o : Observer} {v v₁ v₂ : View} {is js : List Episode}
    (fresh : v.watermark? o.chain = none) (run : o.History v is v₁) (further : o.History v₁ js v₂)
    (quiet : ∀ i ∈ is ++ js, i.IsQuietTick) :
    (∀ w, v₁.watermark? o.chain = some w → ∃ w', v₂.watermark? o.chain = some w' ∧ w ≤ w') ∧
      ((v₁.watermark? o.chain = none ∧ initializations is = [] ∧ windows is = [] ∧
          (o.policy = .skip → ∀ all, (∀ i ∈ is, Serves all i.events) → o.Delivered is [])) ∨
        ∃ first last, v₁.watermark? o.chain = some last ∧ o.Covers is first last) := by
  rw [List.forall_mem_append] at quiet
  refine ⟨fun w hw => further.le_watermark quiet.2 hw, ?_⟩
  have delivered (ho : o.policy = .skip) (all : List LogEntry)
      (serves : ∀ i ∈ is, Serves all i.events) :=
    run.delivered ho fresh quiet.1 serves
  have hprog := run.progression fresh quiet.1
  generalize v₁.watermark? o.chain = current at hprog
  cases hprog with
  | uninitialized initialized applied =>
    refine .inl ⟨rfl, initialized, applied, ?_⟩
    intro ho all serves
    have := delivered ho all serves
    rwa [applied] at this
  | @started first last initialized tiles =>
    refine .inr ⟨first, last, rfl, initialized, tiles, tiles.countP_contains, ?_⟩
    intro ho all serves
    exact (delivered ho all serves).perm (tiles.flatMap_logsIn_perm all o.contract)

/-- A tick that initializes the chain and one that applies a window with a log. -/
def sampleRun : List Episode :=
  [.tick [.answered (.recordedHeight ⟨"sample"⟩) (.ok 5)] (.ok (.initialized 5)),
    .tick [.answered .head (.ok 8), .answered (.logs ⟨2⟩ ⟨6, 8⟩) (.ok [.sample]),
      .answered (.submit .sample) (.ok ⟨"id"⟩)] (.ok (.applied ⟨6, 8⟩ ⟨1, 0, 0⟩))]

set_option maxRecDepth 4000 in
theorem coverage_sampleRun :
    ∃ v, (sample .skip).History (sample .skip).initialView sampleRun v ∧
      (sample .skip).Covers sampleRun 5 8 := by
  have run : (sample .skip).History (sample .skip).initialView sampleRun _ :=
    .tick (.tick .nil (trace_iff_follow.2 rfl)) (trace_iff_follow.2 rfl)
  have quiet : ∀ i ∈ sampleRun ++ [], i.IsQuietTick := by
    simp [sampleRun, IsQuietTick]
  obtain ⟨-, ⟨-, h, -⟩ | ⟨first, last, hw, hc⟩⟩ := run.coverage rfl .nil quiet
  · cases h
  · obtain rfl : 5 = first := List.head_eq_of_cons_eq hc.initialized
    obtain rfl : 8 = last := Option.some.inj hw
    exact ⟨_, run, hc⟩

end Observer

end BridgeWatch
