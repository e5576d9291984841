import BridgeWatch.Proofs.Observer.Relaying

/-!
# The window of the next scan

* `Window.size_next?_le`: no more blocks are asked for than the window allows.
* `Resizes`: a step of a tick keeps the window of the next scan while it waits, sets it to the
  observer's maximum when it applies a window, and else leaves or halves it
  (`resizes_resumeTick`, `Trace.resizes`). Only a fetch that is refused as too large halves it
  (`afterFetch_error`, `Trace.settles`).
* `History.scans`: the window lies between one block and the maximum, whatever has happened to the
  observer.
-/

namespace BridgeWatch

/-! ## Numbers of blocks -/

theorem Observer.toNat_halved (window : UInt64) :
    (halved window).toNat = max (window.toNat / 2) 1 := by
  rw [halved, toNat_max, UInt64.toNat_div]
  rfl

/-- No more blocks are scanned at once than the limit allows. -/
theorem Window.size_next?_le {watermark head limit : UInt64} {w : Window} (hlimit : 1 ≤ limit)
    (h : next? watermark head limit = some w) : w.size ≤ limit := by
  have hsize := (isNext_of_next? h).size_le
  have hone : (1 : UInt64).toNat = 1 := rfl
  rw [UInt64.le_iff_toNat_le] at hlimit ⊢
  omega

namespace Observer

/-! ## Resizing -/

/-- What a step that asks for no logs does to the window of the next scan. -/
inductive Settles (o : Observer) (before : UInt64) : TickStep → Prop
  | waiting {p : Phase} {v : View} (same : v.progress.window = before) :
    Settles o before (.waiting p v)
  | applied {w : Window} {tally : Tally} {v : View} (largest : v.progress.window = o.maxWindow) :
    Settles o before (.finished (.ok (.applied w tally)) v)
  | ended {result : TickResult} {v : View} (idle : result.applied? = none)
    (same : v.progress.window = before) : Settles o before (.finished result v)

/-- What a step does to the window of the next scan. -/
inductive Resizes (o : Observer) (before : UInt64) : TickStep → Prop
  | waiting {p : Phase} {v : View} (same : v.progress.window = before) :
    Resizes o before (.waiting p v)
  | applied {w : Window} {tally : Tally} {v : View} (largest : v.progress.window = o.maxWindow) :
    Resizes o before (.finished (.ok (.applied w tally)) v)
  | ended {result : TickResult} {v : View} (idle : result.applied? = none)
    (less : v.progress.window = before ∨ v.progress.window = halved before) :
    Resizes o before (.finished result v)

theorem Settles.resizes {o : Observer} {before : UInt64} {t : TickStep}
    (h : o.Settles before t) : o.Resizes before t := by
  cases h with
  | waiting same => exact .waiting same
  | applied largest => exact .applied largest
  | ended idle same => exact .ended idle (.inl same)

theorem window_finishTick (o : Observer) (result : TickResult) (v : View) :
    ∃ v', o.finishTick result v = .finished result v' ∧
      v'.progress.window = v.progress.window :=
  ⟨_, o.finishTick_eq_finished result v, rfl⟩

section Steps

variable {o : Observer} {before : UInt64} {v : View}

theorem settles_finishTick {result : TickResult} (idle : result.applied? = none)
    (hv : v.progress.window = before) : o.Settles before (o.finishTick result v) := by
  obtain ⟨v', h, hw⟩ := o.window_finishTick result v
  rw [h]
  exact .ended idle (hw.trans hv)

theorem settles_applyWindow (w : Window) (tally : Tally) (hv : v.progress.window = before) :
    o.Settles before (o.applyWindow w tally v) := by
  unfold applyWindow
  split
  · exact settles_finishTick rfl hv
  · rename_i shared _
    obtain ⟨v', h, hw⟩ := o.window_finishTick (.ok (.applied w tally))
      (View.setWindow ⟨v.progress, shared⟩ o.maxWindow)
    rw [h]
    exact .applied hw

theorem settles_relayEntries (w : Window) (tally : Tally) (entries : List LogEntry)
    (hv : v.progress.window = before) :
    o.Settles before (o.relayEntries w tally entries v) := by
  induction entries generalizing tally v with
  | nil => exact settles_applyWindow w tally hv
  | cons e entries ih =>
    rw [relayEntries]
    split
    · exact ih _ hv
    · exact .waiting hv
    · split
      · exact settles_finishTick rfl hv
      · exact ih _ hv

theorem settles_afterSubmission (w : Window) (tally : Tally) (event : Event)
    (rest : List LogEntry) (answer : Except Fault CorrelationId)
    (hv : v.progress.window = before) :
    o.Settles before (o.afterSubmission w tally event rest answer v) := by
  unfold afterSubmission
  dsimp only
  split
  · exact settles_relayEntries _ _ _ hv
  · split
    · exact settles_finishTick rfl hv
    · exact settles_relayEntries _ _ _ hv

/-- **A tick that relays logs keeps the window of the next scan**, unless it applies its own. -/
theorem Trace.settles {s t : TickStep} {es : List TickEvent} (h : o.Trace s es t)
    (last : s.stage = 0) (hs : o.Settles before s) : o.Settles before t := by
  induction h with
  | refl => exact hs
  | @answered p u es t reply rest ih =>
    cases hs with
    | waiting same =>
      cases p with
      | relay w tally event s rest' =>
        exact ih (o.afterSubmission_measure ..).1 (settles_afterSubmission _ _ _ _ _ same)
      | lookup | firstHead | head | fetch => cases last
  | overridden height rest ih =>
    cases hs with
    | waiting same => exact ih last (.waiting same)

/-- The end of a tick that got no logs. A range that was too large halves the window of the next
scan, nothing else does. -/
theorem afterFetch_error (w : Window) (f : Fault) :
    ∃ v', o.afterFetch w (.error f) v = .finished (.error f) v' ∧
      ((∃ chain first last limit, f = .rangeTooLarge chain first last limit) ∧
          v'.progress.window = halved v.progress.window ∨
        (∀ chain first last limit, f ≠ .rangeTooLarge chain first last limit) ∧
          v'.progress.window = v.progress.window) := by
  simp only [afterFetch]
  split
  · rename_i chain first last limit
    obtain ⟨v', h, hw⟩ := o.window_finishTick (.error (.rangeTooLarge chain first last limit))
      (v.setWindow (halved v.progress.window))
    exact ⟨v', h, .inl ⟨⟨chain, first, last, limit, rfl⟩, hw⟩⟩
  · rename_i hne
    obtain ⟨v', h, hw⟩ := o.window_finishTick (.error f) v
    exact ⟨v', h, .inr ⟨hne, hw⟩⟩

theorem resizes_finishTick {result : TickResult} (idle : result.applied? = none)
    (hv : v.progress.window = before) : o.Resizes before (o.finishTick result v) :=
  (settles_finishTick idle hv).resizes

theorem resizes_afterFetch (w : Window) (answer : Except Fault (List LogEntry))
    (hv : v.progress.window = before) : o.Resizes before (o.afterFetch w answer v) := by
  cases answer with
  | ok entries =>
    exact (settles_relayEntries (v := v.setState .applying) w .zero entries hv).resizes
  | error f =>
    obtain ⟨v', h, hw⟩ := o.afterFetch_error (v := v) w f
    rw [h, ← hv]
    rcases hw with ⟨-, half⟩ | ⟨-, same⟩
    · exact .ended rfl (.inr half)
    · exact .ended rfl (.inl same)

/-- **A step of a tick keeps the window of the next scan while it waits**, sets it to the maximum
when it applies a window, and else leaves or halves it. -/
theorem resizes_resumeTick (p : Phase) (reply : (p.request o).Reply)
    (hv : v.progress.window = before) : o.Resizes before (o.resumeTick v p reply) := by
  cases p with
  | lookup =>
    simp only [resumeTick]
    split
    · exact resizes_finishTick rfl hv
    · exact .waiting hv
  | firstHead =>
    simp only [resumeTick]
    split
    · exact resizes_finishTick rfl hv
    · exact resizes_finishTick rfl hv
  | head watermark =>
    simp only [resumeTick, afterHead]
    split
    · exact resizes_finishTick rfl hv
    · split
      · exact resizes_finishTick rfl hv
      · exact .waiting hv
  | fetch w => exact resizes_afterFetch w reply hv
  | relay w tally event _ rest =>
    exact (settles_afterSubmission w tally event rest reply hv).resizes

theorem Trace.resizes {s t : TickStep} {es : List TickEvent} (h : o.Trace s es t)
    (hs : o.Resizes before s) : o.Resizes before t := by
  induction h with
  | refl => exact hs
  | answered reply rest ih =>
    cases hs with
    | waiting same => exact ih (resizes_resumeTick _ reply same)
  | overridden height rest ih =>
    cases hs with
    | waiting same => exact ih (.waiting same)

theorem resizes_startTick (o : Observer) (v : View) :
    o.Resizes v.progress.window (o.startTick v) := by
  rw [startTick_eq]
  split <;> exact .waiting rfl

end Steps

/-! ## The bounds of the window -/

/-- The next scan is of one block at least and of the observer's maximum at most. -/
def Scans (o : Observer) (v : View) : Prop :=
  1 ≤ v.progress.window ∧ v.progress.window ≤ o.maxWindow

theorem scans_initialView {o : Observer} (ho : 1 ≤ o.maxWindow) : o.Scans o.initialView :=
  ⟨ho, UInt64.le_refl _⟩

theorem Resizes.scans {o : Observer} (ho : 1 ≤ o.maxWindow) {v : View} {t : TickStep}
    (h : o.Resizes v.progress.window t) (hv : o.Scans v) : o.Scans t.view := by
  have halved_scans : 1 ≤ halved v.progress.window ∧ halved v.progress.window ≤ o.maxWindow := by
    obtain ⟨-, hmax⟩ := hv
    simp only [UInt64.le_iff_toNat_le, toNat_halved] at ho hmax ⊢
    have : (1 : UInt64).toNat = 1 := rfl
    omega
  cases h with
  | waiting same =>
    rw [Scans, TickStep.view, same]
    exact hv
  | applied largest =>
    rw [Scans, TickStep.view, largest]
    exact ⟨ho, UInt64.le_refl _⟩
  | ended _ less =>
    rw [Scans, TickStep.view]
    rcases less with same | half
    · rw [same]
      exact hv
    · rw [half]
      exact halved_scans

/-- **The window of the next scan keeps its bounds**, whatever happens to the observer. -/
theorem History.scans {o : Observer} (ho : 1 ≤ o.maxWindow) {v₀ v : View} {is : List Episode}
    (h : o.History v₀ is v) (hv : o.Scans v₀) : o.Scans v := by
  induction h with
  | nil => exact hv
  | @tick is u v es result before run ih =>
    exact (run.resizes (resizes_startTick o u)).scans ho ih
  | @dropped is u v es p before run ih =>
    exact (run.resizes (resizes_startTick o u)).scans ho ih
  | restart => exact scans_initialView ho
  | overridden before height ih => exact ih

end Observer

end BridgeWatch
