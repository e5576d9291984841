import BridgeWatch.Proofs.Observer.Watermark

/-!
# What a tick depends on

Observers share the watermarks, the counts of relayed events and the metrics. A tick depends on
none of them but the watermark of its own chain, and of an answer to a submission it only uses
whether it was accepted:

* `View.Alike`: two views show an observer of a chain the same progress and the same watermark.
* `Request.SameReply`: two answers are the same, the identifiers of accepted submissions aside.
* `alike_startTick`, `alike_resumeTick`: from alike views, a tick comes to stand at the same phase
  or the same result, with alike views.
* `resumeTick_eq_of_sameReply`: it does not look at the identifiers of accepted submissions.
* `watermark?_startTick`, `watermark?_resumeTick_of_ne`: it keeps the watermarks of all other
  chains.
-/

namespace BridgeWatch

/-- Two views show the observer of a chain the same. -/
structure View.Alike (chain : ChainId) (v v' : View) : Prop where
  progress : v.progress = v'.progress
  watermark : v.watermark? chain = v'.watermark? chain

/-- Two steps of a tick that stand at the same phase or have ended the same. -/
inductive TickStep.Alike (chain : ChainId) : TickStep → TickStep → Prop
  | waiting {p : Phase} {v v' : View} (h : v.Alike chain v') :
      Alike chain (.waiting p v) (.waiting p v')
  | finished {result : TickResult} {v v' : View} (h : v.Alike chain v') :
      Alike chain (.finished result v) (.finished result v')

/-- Two answers are the same, the identifiers of accepted submissions aside. -/
def Request.SameReply : (q : Request) → q.Reply → q.Reply → Prop
  | recordedHeight _, a, b => a = b
  | head, a, b => a = b
  | logs _ _, a, b => a = b
  | submit _, a, b => a.map (fun _ => ()) = b.map (fun _ => ())

namespace Request.SameReply

variable {q : Request} {a b c : q.Reply}

theorem refl (a : q.Reply) : q.SameReply a a := by
  cases q <;> rfl

theorem symm (h : q.SameReply a b) : q.SameReply b a := by
  cases q <;> exact Eq.symm h

theorem trans (h : q.SameReply a b) (h' : q.SameReply b c) : q.SameReply a c := by
  cases q <;> exact Eq.trans h h'

end Request.SameReply

namespace Observer

variable {o : Observer} {v v' : View}

theorem alike_finishTick (o : Observer) (result : TickResult) (h : v.Alike o.chain v') :
    TickStep.Alike o.chain (o.finishTick result v) (o.finishTick result v') := by
  rw [finishTick_eq_finished, finishTick_eq_finished, h.progress]
  refine .finished ⟨rfl, ?_⟩
  show (v.shared.ended o.chain result).watermarks.get? o.chain =
    (v'.shared.ended o.chain result).watermarks.get? o.chain
  rw [Shared.watermarks_ended, Shared.watermarks_ended]
  exact h.watermark

theorem alike_initializeAt (o : Observer) (height : UInt64) (h : v.Alike o.chain v') :
    TickStep.Alike o.chain (o.initializeAt height v) (o.initializeAt height v') := by
  refine o.alike_finishTick _ ⟨h.progress, ?_⟩
  exact (WatermarkStore.get?_set_self ..).trans (WatermarkStore.get?_set_self ..).symm

theorem alike_countSkipped (o : Observer) (f : Fault) (h : v.Alike o.chain v') :
    (o.countSkipped f v).Alike o.chain (o.countSkipped f v') :=
  ⟨h.progress, h.watermark⟩

/-- An advance looks at nothing but the chain's watermark. -/
theorem advance_cases {s s' : Shared} {chain : ChainId}
    (h : s.watermark? chain = s'.watermark? chain) (height : UInt64) :
    (∃ f, s.advance chain height = .error f ∧ s'.advance chain height = .error f) ∨
      ∃ t t', s.advance chain height = .ok t ∧ s'.advance chain height = .ok t' ∧
        t.watermark? chain = t'.watermark? chain := by
  have h : s.watermarks.get? chain = s'.watermarks.get? chain := h
  have hset : (s.watermarks.set chain height).get? chain =
      (s'.watermarks.set chain height).get? chain :=
    (WatermarkStore.get?_set_self ..).trans (WatermarkStore.get?_set_self ..).symm
  simp only [Shared.advance, WatermarkStore.advance, h]
  cases s'.watermarks.get? chain with
  | none => exact .inr ⟨_, _, rfl, rfl, hset⟩
  | some current =>
    by_cases hlt : height < current
    · simp only [hlt, if_true]
      exact .inl ⟨_, rfl, rfl⟩
    · simp only [hlt, if_false]
      exact .inr ⟨_, _, rfl, rfl, hset⟩

theorem alike_applyWindow (o : Observer) (w : Window) (tally : Tally) (h : v.Alike o.chain v') :
    TickStep.Alike o.chain (o.applyWindow w tally v) (o.applyWindow w tally v') := by
  unfold applyWindow
  rcases advance_cases h.watermark w.last with ⟨f, hf, hf'⟩ | ⟨t, t', ht, ht', hw⟩
  · rw [hf, hf']
    exact o.alike_finishTick _ h
  · rw [ht, ht']
    refine o.alike_finishTick _ ⟨?_, hw⟩
    simp only [View.setWindow, h.progress]

theorem alike_relayEntries (o : Observer) (w : Window) (tally : Tally) (entries : List LogEntry)
    (h : v.Alike o.chain v') :
    TickStep.Alike o.chain (o.relayEntries w tally entries v)
      (o.relayEntries w tally entries v') := by
  induction entries generalizing tally v v' with
  | nil => exact o.alike_applyWindow w tally h
  | cons e entries ih =>
    simp only [relayEntries]
    split
    · exact ih _ h
    · exact .waiting h
    · split
      · exact o.alike_finishTick _ (o.alike_countSkipped _ h)
      · exact ih _ (o.alike_countSkipped _ h)

theorem alike_afterSubmission (o : Observer) (w : Window) (tally : Tally) (event : Event)
    (rest : List LogEntry) (answer : Except Fault CorrelationId) (h : v.Alike o.chain v') :
    TickStep.Alike o.chain (o.afterSubmission w tally event rest answer v)
      (o.afterSubmission w tally event rest answer v') := by
  cases answer with
  | ok id => exact o.alike_relayEntries _ _ _ ⟨h.progress, h.watermark⟩
  | error f =>
    have hs := o.alike_countSkipped f.asSubmission h
    unfold afterSubmission
    simp only [Shared.settle]
    split
    · exact o.alike_finishTick _ hs
    · exact o.alike_relayEntries _ _ _ hs

theorem alike_afterHead (o : Observer) (watermark : UInt64) (answer : Except Fault UInt64)
    (h : v.Alike o.chain v') :
    TickStep.Alike o.chain (o.afterHead watermark answer v) (o.afterHead watermark answer v') := by
  obtain ⟨p, s⟩ := v
  obtain ⟨p', s'⟩ := v'
  obtain ⟨rfl, hw⟩ : p = p' ∧ _ := ⟨h.progress, h.watermark⟩
  unfold afterHead
  split
  · exact o.alike_finishTick _ ⟨rfl, hw⟩
  · dsimp only [View.modifyStatus, View.modifyShared]
    split
    · exact o.alike_finishTick _ ⟨rfl, hw⟩
    · exact .waiting ⟨rfl, hw⟩

theorem alike_afterFetch (o : Observer) (w : Window) (answer : Except Fault (List LogEntry))
    (h : v.Alike o.chain v') :
    TickStep.Alike o.chain (o.afterFetch w answer v) (o.afterFetch w answer v') := by
  unfold afterFetch
  split
  · refine o.alike_relayEntries _ _ _ ⟨?_, h.watermark⟩
    simp only [View.setState, h.progress]
  · refine o.alike_finishTick _ ?_
    split
    · refine ⟨?_, h.watermark⟩
      simp only [View.setWindow, h.progress]
    · exact h

/-- The beginning of a tick depends on nothing but the progress and the chain's watermark. -/
theorem alike_startTick (o : Observer) (h : v.Alike o.chain v') :
    TickStep.Alike o.chain (o.startTick v) (o.startTick v') := by
  have hs : (v.setState .scanning).Alike o.chain (v'.setState .scanning) := by
    refine ⟨?_, h.watermark⟩
    simp only [View.setState, h.progress]
  rw [startTick_eq, startTick_eq, h.watermark]
  split
  · exact .waiting hs
  · exact .waiting hs

/-- **A step of a tick depends on nothing but the progress and the chain's watermark.** -/
theorem alike_resumeTick (o : Observer) (h : v.Alike o.chain v') (p : Phase)
    (a : (p.request o).Reply) :
    TickStep.Alike o.chain (o.resumeTick v p a) (o.resumeTick v' p a) := by
  cases p with
  | lookup =>
    simp only [resumeTick]
    split
    · exact o.alike_initializeAt _ h
    · exact .waiting h
  | firstHead =>
    simp only [resumeTick]
    split
    · exact o.alike_initializeAt _ h
    · exact o.alike_finishTick _ h
  | head watermark => exact o.alike_afterHead watermark a h
  | fetch w => exact o.alike_afterFetch w a h
  | relay w tally event s rest => exact o.alike_afterSubmission w tally event rest a h

/-- A tick does not look at the identifiers of accepted submissions. -/
theorem resumeTick_eq_of_sameReply (o : Observer) (v : View) (p : Phase)
    {a b : (p.request o).Reply} (h : (p.request o).SameReply a b) :
    o.resumeTick v p a = o.resumeTick v p b := by
  cases p with
  | relay w tally event s rest =>
    cases a with
    | ok id =>
      cases b with
      | ok id' => rfl
      | error f => cases h
    | error f =>
      cases b with
      | ok id => cases h
      | error f' =>
        obtain rfl : f = f' := Except.error.inj h
        rfl
  | lookup | firstHead | head | fetch => exact congrArg _ h

/-! ## Other chains -/

theorem watermark?_startTick (o : Observer) (v : View) (chain : ChainId) :
    (o.startTick v).view.watermark? chain = v.watermark? chain := by
  rw [startTick_eq]
  split <;> rfl

/-- **A step of a tick keeps the watermarks of all other chains.** -/
theorem watermark?_resumeTick_of_ne (o : Observer) (v : View) (p : Phase)
    (a : (p.request o).Reply) {chain : ChainId} (h : chain ≠ o.chain) :
    (o.resumeTick v p a).view.watermark? chain = v.watermark? chain :=
  (o.effect_resumeTick v p a).watermark?_of_ne h

end Observer

end BridgeWatch
