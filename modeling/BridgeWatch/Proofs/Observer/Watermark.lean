import BridgeWatch.Proofs.Observer.Ending
import BridgeWatch.Proofs.Observer.History
import BridgeWatch.Proofs.Window

/-!
# What a tick does to the watermarks

* `TickResult.written?` is the watermark that a tick sets, told by its result: the height at which
  it starts the chain, or the end of the window it applies.
* `effect_resumeTick`: a step of a tick sets the watermark of its own chain to what its result says,
  and touches no other. While a tick waits it has written nothing, and an applied window never ends
  below the watermark it meets.
* `Phase.Fits` is the invariant of ticks that nobody interferes with: the watermark is still what
  the tick has read, and its window follows it (`Trace.fits`).
-/

namespace BridgeWatch

/-- The watermark that a tick sets. -/
def TickResult.written? : TickResult → Option UInt64
  | .ok (.initialized height) => some height
  | .ok (.applied window _) => some window.last
  | _ => none

namespace TickStep

/-- The view that a step leaves. -/
def view : TickStep → View
  | waiting _ v | finished _ v => v

/-- The watermark that a step sets. -/
def written? : TickStep → Option UInt64
  | waiting _ _ => none
  | finished result _ => result.written?

end TickStep

namespace View

/-- The watermark of a chain. -/
def watermark? (v : View) (chain : ChainId) : Option UInt64 := v.shared.watermark? chain

@[simp]
theorem watermark?_override (v : View) (chain : ChainId) (height : UInt64) :
    (v.override chain height).watermark? chain = some height :=
  WatermarkStore.get?_set_self ..

end View

theorem Shared.watermarks_settle (s : Shared) (event : Event)
    (answer : Except Fault CorrelationId) :
    (s.settle event answer).2.watermarks = s.watermarks := by
  cases answer <;> rfl

/-- An advance is refused if the watermark is past the height, and else sets it. -/
theorem Shared.refused_or_advanced (s : Shared) (chain : ChainId) (height : UInt64) :
    (∃ current, s.watermark? chain = some current ∧ height < current ∧
        s.advance chain height = .error (.regression chain current height)) ∨
      ((∀ current, s.watermark? chain = some current → current ≤ height) ∧
        s.advance chain height = .ok (s.setWatermark chain height)) := by
  unfold Shared.advance WatermarkStore.advance Shared.watermark?
  cases hc : s.watermarks.get? chain with
  | none => exact .inr ⟨fun _ h => (nomatch h), rfl⟩
  | some current =>
    by_cases hlt : height < current
    · exact .inl ⟨current, rfl, hlt, by simp only [if_pos hlt]⟩
    · refine .inr ⟨?_, by simp only [if_neg hlt]; rfl⟩
      intro stored h
      cases h
      exact UInt64.not_lt.1 hlt

/-- An advance that is not refused sets the watermark and does not move it back. -/
theorem Shared.watermarks_of_advance {s s' : Shared} {chain : ChainId} {height : UInt64}
    (h : s.advance chain height = .ok s') :
    s'.watermarks = s.watermarks.set chain height ∧
      ∀ current, s.watermarks.get? chain = some current → current ≤ height := by
  rcases s.refused_or_advanced chain height with ⟨current, -, -, heq⟩ | ⟨hle, heq⟩
  · rw [heq] at h
    cases h
  · rw [heq] at h
    cases h
    exact ⟨rfl, hle⟩

namespace Observer

/-! ## Effects -/

/-- What a step does to the watermarks there were before. -/
structure Effect (o : Observer) (before : WatermarkStore) (t : TickStep) : Prop where
  /-- The step sets the watermark that its result says, and nothing else. -/
  watermarks : t.view.shared.watermarks = t.written?.elim before (before.set o.chain)
  /-- A window is applied only if the watermark is not past its end. -/
  le_last : ∀ w tally v, t = .finished (.ok (.applied w tally)) v →
    ∀ current, before.get? o.chain = some current → current ≤ w.last

namespace Effect

variable {o : Observer} {before : WatermarkStore} {t : TickStep}

/-- The watermark of the observer's chain after a step. -/
theorem watermark? (h : o.Effect before t) :
    t.view.watermark? o.chain = t.written?.or (before.get? o.chain) := by
  show t.view.shared.watermarks.get? o.chain = _
  rw [h.watermarks]
  cases t.written? with
  | none => rfl
  | some height => exact WatermarkStore.get?_set_self ..

/-- The watermarks of other chains stay as they are. -/
theorem watermark?_of_ne (h : o.Effect before t) {chain : ChainId} (hc : chain ≠ o.chain) :
    t.view.watermark? chain = before.get? chain := by
  show t.view.shared.watermarks.get? chain = _
  rw [h.watermarks]
  cases t.written? with
  | none => rfl
  | some height => exact WatermarkStore.get?_set_of_ne _ hc height

end Effect

/-- The end of a tick keeps the watermarks. -/
theorem finishTick_eq (o : Observer) (result : TickResult) (v : View) :
    ∃ v', o.finishTick result v = .finished result v' ∧
      v'.shared.watermarks = v.shared.watermarks :=
  ⟨_, o.finishTick_eq_finished result v, v.shared.watermarks_ended o.chain result⟩

/-- A tick that ends without having written anything. -/
theorem effect_finishTick (o : Observer) {result : TickResult} {before : WatermarkStore} {v : View}
    (hr : result.written? = none) (hv : v.shared.watermarks = before) :
    o.Effect before (o.finishTick result v) := by
  obtain ⟨v', h, hw⟩ := o.finishTick_eq result v
  rw [h]
  refine ⟨?_, ?_⟩
  · show v'.shared.watermarks = result.written?.elim _ _
    rw [hr, hw, hv]
    rfl
  · intro w tally u hu
    cases hu
    cases hr

/-- A step that goes on waiting has written nothing. -/
theorem effect_waiting (o : Observer) {before : WatermarkStore} {v : View} (p : Phase)
    (hv : v.shared.watermarks = before) : o.Effect before (.waiting p v) := by
  refine ⟨hv, ?_⟩
  intro w tally u hu
  cases hu

theorem effect_initializeAt (o : Observer) (height : UInt64) (v : View) :
    o.Effect v.shared.watermarks (o.initializeAt height v) := by
  obtain ⟨v', h, hw⟩ :=
    o.finishTick_eq (.ok (.initialized height)) (v.modifyShared (·.setWatermark o.chain height))
  rw [initializeAt, h]
  refine ⟨hw, ?_⟩
  intro w tally u hu
  cases hu

theorem effect_applyWindow (o : Observer) (w : Window) (tally : Tally) {before : WatermarkStore}
    {v : View} (hv : v.shared.watermarks = before) :
    o.Effect before (o.applyWindow w tally v) := by
  subst hv
  unfold applyWindow
  split
  · exact o.effect_finishTick rfl rfl
  · rename_i shared hs
    obtain ⟨hset, hle⟩ := Shared.watermarks_of_advance hs
    obtain ⟨v', h, hw⟩ :=
      o.finishTick_eq (.ok (.applied w tally)) (View.setWindow ⟨v.progress, shared⟩ o.maxWindow)
    rw [h]
    refine ⟨hw.trans hset, ?_⟩
    intro w' tally' u hu
    cases hu
    exact hle

theorem effect_relayEntries (o : Observer) (w : Window) (tally : Tally) (entries : List LogEntry)
    {before : WatermarkStore} {v : View} (hv : v.shared.watermarks = before) :
    o.Effect before (o.relayEntries w tally entries v) := by
  induction entries generalizing tally v with
  | nil => exact o.effect_applyWindow w tally hv
  | cons e entries ih =>
    rw [relayEntries]
    split
    · exact ih _ hv
    · exact o.effect_waiting _ hv
    · split
      · exact o.effect_finishTick rfl hv
      · exact ih _ hv

theorem effect_afterSubmission (o : Observer) (w : Window) (tally : Tally) (event : Event)
    (rest : List LogEntry) (answer : Except Fault CorrelationId) (v : View) :
    o.Effect v.shared.watermarks (o.afterSubmission w tally event rest answer v) := by
  have hv := Shared.watermarks_settle v.shared event answer
  unfold afterSubmission
  dsimp only
  split
  · exact o.effect_relayEntries _ _ _ hv
  · split
    · exact o.effect_finishTick rfl hv
    · exact o.effect_relayEntries _ _ _ hv

theorem effect_afterHead (o : Observer) (watermark : UInt64) (answer : Except Fault UInt64)
    (v : View) : o.Effect v.shared.watermarks (o.afterHead watermark answer v) := by
  unfold afterHead
  split
  · exact o.effect_finishTick rfl rfl
  · dsimp only
    split
    · exact o.effect_finishTick rfl rfl
    · exact o.effect_waiting _ rfl

theorem effect_afterFetch (o : Observer) (w : Window) (answer : Except Fault (List LogEntry))
    (v : View) : o.Effect v.shared.watermarks (o.afterFetch w answer v) := by
  unfold afterFetch
  split
  · exact o.effect_relayEntries _ _ _ rfl
  · refine o.effect_finishTick rfl ?_
    split <;> rfl

/-- **A step of a tick sets the watermark of its chain as its result says**, and no other. -/
theorem effect_resumeTick (o : Observer) (v : View) (p : Phase) (reply : (p.request o).Reply) :
    o.Effect v.shared.watermarks (o.resumeTick v p reply) := by
  cases p with
  | lookup =>
    simp only [resumeTick]
    split
    · exact o.effect_initializeAt _ v
    · exact o.effect_waiting _ rfl
  | firstHead =>
    simp only [resumeTick]
    split
    · exact o.effect_initializeAt _ v
    · exact o.effect_finishTick rfl rfl
  | head watermark => exact o.effect_afterHead watermark reply v
  | fetch w => exact o.effect_afterFetch w reply v
  | relay w tally event s rest => exact o.effect_afterSubmission w tally event rest reply v

/-- The beginning of a tick reads the watermark and writes nothing. -/
theorem startTick_eq (o : Observer) (v : View) :
    o.startTick v = match v.watermark? o.chain with
      | none => .waiting .lookup (v.setState .scanning)
      | some watermark => .waiting (.head watermark) (v.setState .scanning) := rfl

/-- After its last override, a tick changes the watermark as its result says, and applies no window
that ends below the watermark. -/
theorem Trace.effect {o : Observer} {p : Phase} {v : View} {es : List TickEvent} {t : TickStep}
    (h : o.Trace (.waiting p v) es t) (hu : Undisturbed es) :
    t.view.watermark? o.chain = t.written?.or (v.watermark? o.chain) ∧
      ∀ w tally v', t = .finished (.ok (.applied w tally)) v' →
        ∀ current, v.watermark? o.chain = some current → current ≤ w.last := by
  generalize hs : TickStep.waiting p v = s at h
  induction h generalizing p v with
  | refl =>
    subst hs
    refine ⟨rfl, ?_⟩
    intro w tally v' hf
    cases hf
  | @answered q u es t reply rest ih =>
    cases hs
    have he := o.effect_resumeTick u q reply
    cases hr : o.resumeTick u q reply with
    | waiting q' u' =>
      rw [hr] at he
      have hw : u'.watermark? o.chain = u.watermark? o.chain := he.watermark?
      rw [← hw]
      exact ih (undisturbed_answered_cons.1 hu) hr.symm
    | finished result u' =>
      rw [hr] at he rest
      obtain ⟨-, rfl⟩ := rest.of_finished
      exact ⟨he.watermark?, he.le_last⟩
  | overridden height rest => exact absurd hu not_undisturbed_overridden_cons

end Observer

/-! ## Ticks that nobody interferes with -/

/-- What a phase has read agrees with the watermark. -/
def Phase.Fits (watermark : Option UInt64) : Phase → Prop
  | lookup | firstHead => watermark = none
  | head m => watermark = some m
  | fetch w | relay w _ _ _ _ => ∃ m, watermark = some m ∧ w.Follows m

/-- A result agrees with the watermark before its tick. -/
def TickResult.Fits (before : Option UInt64) : TickResult → Prop
  | .ok (.initialized _) => before = none
  | .ok (.applied w _) | .ok (.held w _ _) => ∃ m, before = some m ∧ w.Follows m
  | _ => True

/-- A tick that found a given watermark and was left alone with it. -/
def TickStep.Fits (chain : ChainId) (before : Option UInt64) : TickStep → Prop
  | waiting p v => v.watermark? chain = before ∧ p.Fits before
  | finished result _ => result.Fits before

namespace Observer

variable {o : Observer} {before : Option UInt64} {v : View}

theorem fits_startTick (o : Observer) (v : View) :
    (o.startTick v).Fits o.chain (v.watermark? o.chain) := by
  rw [startTick_eq]
  cases h : v.watermark? o.chain with
  | none => exact ⟨h, rfl⟩
  | some m => exact ⟨h, rfl⟩

theorem fits_relayEntries {w : Window} (hw : ∃ m, before = some m ∧ w.Follows m) (tally : Tally)
    (entries : List LogEntry) (hv : v.watermark? o.chain = before) :
    (o.relayEntries w tally entries v).Fits o.chain before := by
  induction entries generalizing tally v with
  | nil =>
    unfold relayEntries applyWindow
    split
    · trivial
    · exact hw
  | cons e entries ih =>
    rw [relayEntries]
    split
    · exact ih _ hv
    · exact ⟨hv, hw⟩
    · split
      · exact hw
      · exact ih _ hv

theorem fits_afterSubmission {w : Window} (hw : ∃ m, before = some m ∧ w.Follows m)
    (tally : Tally) (event : Event) (rest : List LogEntry) (answer : Except Fault CorrelationId)
    (hv : v.watermark? o.chain = before) :
    (o.afterSubmission w tally event rest answer v).Fits o.chain before := by
  have hv' : (v.shared.settle event answer).2.watermark? o.chain = before := by
    rw [← hv]
    exact congrArg (·.get? o.chain) (Shared.watermarks_settle v.shared event answer)
  unfold afterSubmission
  dsimp only
  split
  · exact fits_relayEntries hw _ _ hv'
  · split
    · exact hw
    · exact fits_relayEntries hw _ _ hv'

theorem fits_afterHead {watermark : UInt64} (hb : before = some watermark)
    (answer : Except Fault UInt64) (hv : v.watermark? o.chain = before) :
    (o.afterHead watermark answer v).Fits o.chain before := by
  unfold afterHead
  split
  · trivial
  · dsimp only
    split
    · trivial
    · rename_i w hw
      exact ⟨hv, watermark, hb, (Window.follows_next? hw).1⟩

/-- A step of a tick that was left alone leaves it in agreement with the watermark. -/
theorem fits_resumeTick {p : Phase} (hp : p.Fits before) (hv : v.watermark? o.chain = before)
    (reply : (p.request o).Reply) : (o.resumeTick v p reply).Fits o.chain before := by
  cases p with
  | lookup =>
    simp only [resumeTick]
    split
    · exact hp
    · exact ⟨hv, hp⟩
  | firstHead =>
    simp only [resumeTick]
    split
    · exact hp
    · trivial
  | head watermark => exact fits_afterHead hp reply hv
  | fetch w =>
    simp only [resumeTick, afterFetch]
    split
    · exact fits_relayEntries hp _ _ hv
    · trivial
  | relay w tally event s rest => exact fits_afterSubmission hp tally event rest reply hv

/-- **A tick that is left alone agrees with the watermark throughout.** -/
theorem Trace.fits {s t : TickStep} {es : List TickEvent} (h : o.Trace s es t)
    (hu : Undisturbed es) (hs : s.Fits o.chain before) : t.Fits o.chain before := by
  induction h with
  | refl => exact hs
  | answered reply rest ih =>
    exact ih (undisturbed_answered_cons.1 hu) (fits_resumeTick hs.2 hs.1 reply)
  | overridden height rest => exact absurd hu not_undisturbed_overridden_cons

/-- A tick that is left alone sets the watermark as its result says, which agrees with the
watermark that it found. -/
theorem Trace.of_startTick {es : List TickEvent} {t : TickStep}
    (h : o.Trace (o.startTick v) es t) (hu : Undisturbed es) :
    t.Fits o.chain (v.watermark? o.chain) ∧
      t.view.watermark? o.chain = t.written?.or (v.watermark? o.chain) := by
  refine ⟨h.fits hu (o.fits_startTick v), ?_⟩
  rw [startTick_eq] at h
  split at h
  · exact (h.effect hu).1
  · exact (h.effect hu).1

end Observer

end BridgeWatch
