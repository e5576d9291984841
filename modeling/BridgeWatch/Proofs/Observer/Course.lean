import BridgeWatch.Proofs.Observer.Watermark

/-!
# The course of a tick

A tick that is left alone takes one of five courses (`Course`, `Trace.course`): it waits for a
height or has ended without a window to scan; it waits for the logs of its window; it has got none;
or it has got them and relays them.

* `Observer.Aims` is the window that a tick scans once it has read a head.
* `Trace.late_of_stage`: once a tick relays logs, it asks nothing more but for submissions.
-/

namespace BridgeWatch

namespace TickEvent

/-- The event answers the question for a height. -/
def IsHeight : TickEvent → Prop
  | answered (.recordedHeight _) _ | answered .head _ => True
  | answered (.logs _ _) _ | answered (.submit _) _ | overridden _ => False

/-- The event can happen to a tick that relays logs. -/
def IsLate : TickEvent → Prop
  | answered (.submit _) _ | overridden _ => True
  | answered (.recordedHeight _) _ | answered .head _ | answered (.logs _ _) _ => False

end TickEvent

namespace Observer

variable {o : Observer} {v : View} {es : List TickEvent}

/-- A tick that has come to its last stage stays there, and gets no more heights or logs. -/
theorem Trace.late_of_stage {s t : TickStep} (h : o.Trace s es t) (hs : s.stage = 0) :
    t.stage = 0 ∧ ∀ e ∈ es, e.IsLate := by
  induction h with
  | refl =>
    refine ⟨hs, ?_⟩
    intro e he
    cases he
  | @answered p u es t reply rest ih =>
    cases p with
    | relay w tally event s rest' =>
      obtain ⟨ht, hall⟩ := ih (o.afterSubmission_measure ..).1
      exact ⟨ht, List.forall_mem_cons.2 ⟨trivial, hall⟩⟩
    | lookup | firstHead | head | fetch => cases hs
  | overridden height rest ih =>
    obtain ⟨ht, hall⟩ := ih hs
    exact ⟨ht, List.forall_mem_cons.2 ⟨trivial, hall⟩⟩

/-- The window that a tick scans when it reads a head. -/
def Aims (o : Observer) (v : View) (head : UInt64) (w : Window) : Prop :=
  ∃ m, v.watermark? o.chain = some m ∧ Window.next? m head v.progress.window = some w

theorem Aims.unique {head : UInt64} {w w' : Window} (h : o.Aims v head w)
    (h' : o.Aims v head w') : w = w' := by
  obtain ⟨m, hm, hw⟩ := h
  obtain ⟨m', hm', hw'⟩ := h'
  obtain rfl : m = m' := Option.some.inj (hm.symm.trans hm')
  exact Option.some.inj (hw.symm.trans hw')

/-- The course of a tick that is left alone, from a view to the step where it stands. -/
inductive Course (o : Observer) (v : View) : List TickEvent → TickStep → Prop
  /-- It waits for a height. -/
  | waiting {es : List TickEvent} {p : Phase} {u : View} (heights : ∀ e ∈ es, e.IsHeight)
    (aimless : ∀ head w, .answered .head (.ok head) ∈ es → ¬o.Aims v head w)
    (early : 1 < p.stage) : Course o v es (.waiting p u)
  /-- It has ended without a window to scan. -/
  | ended {es : List TickEvent} {result : TickResult} {u : View} {t : TickStep}
    (heights : ∀ e ∈ es, e.IsHeight)
    (aimless : ∀ head w, .answered .head (.ok head) ∈ es → ¬o.Aims v head w)
    (idle : result.applied? = none) (last : t = o.finishTick result u)
    (window : u.progress.window = v.progress.window) : Course o v es t
  /-- It waits for the logs of its window. -/
  | fetching {head : UInt64} {w : Window} {u : View} (aims : o.Aims v head w) :
    Course o v [.answered .head (.ok head)] (.waiting (.fetch w) u)
  /-- It has got no logs. -/
  | failed {head : UInt64} {w : Window} {f : Fault} {u : View} {t : TickStep}
    (aims : o.Aims v head w) (last : t = o.afterFetch w (.error f) u)
    (window : u.progress.window = v.progress.window) :
    Course o v [.answered .head (.ok head), .answered (.logs o.contract w) (.error f)] t
  /-- It relays the logs that it has got. -/
  | relaying {head : UInt64} {w : Window} {entries : List LogEntry} {fs : List TickEvent}
    {u : View} {t : TickStep} (aims : o.Aims v head w)
    (run : o.Trace (o.relayEntries w .zero entries u) fs t) (quiet : Undisturbed fs)
    (watermark : u.watermark? o.chain = v.watermark? o.chain)
    (window : u.progress.window = v.progress.window) :
    Course o v
      (.answered .head (.ok head) :: .answered (.logs o.contract w) (.ok entries) :: fs) t

/-- A chain without a watermark has no window to scan. -/
theorem not_aims (hv : v.watermark? o.chain = none) (head : UInt64) (w : Window) :
    ¬o.Aims v head w := by
  rintro ⟨m, hm, -⟩
  rw [hv] at hm
  cases hm

/-- The course of a tick that finds no watermark. -/
theorem Trace.course_of_none {t : TickStep}
    (h : o.Trace (.waiting .lookup (v.setState .scanning)) es t) (hu : Undisturbed es)
    (hv : v.watermark? o.chain = none) : o.Course v es t := by
  have aimless : ∀ es : List TickEvent, ∀ head w, .answered .head (.ok head) ∈ es →
      ¬o.Aims v head w := fun _ head w _ => not_aims hv head w
  rcases h.of_waiting hu with ⟨rfl, rfl⟩ | ⟨reply, fs, rfl, h, hfs⟩
  · exact .waiting (by simp) (aimless []) (by simp [Phase.stage])
  simp only [resumeTick] at h
  split at h
  · obtain ⟨rfl, ht⟩ := Trace.of_finished h
    exact .ended (by simp [TickEvent.IsHeight, Phase.request]) (aimless _) rfl ht rfl
  rcases h.of_waiting hfs with ⟨rfl, rfl⟩ | ⟨reply', gs, rfl, h, hgs⟩
  · exact .waiting (by simp [TickEvent.IsHeight, Phase.request]) (aimless _) (by simp [Phase.stage])
  simp only [resumeTick] at h
  split at h <;>
    · obtain ⟨rfl, ht⟩ := Trace.of_finished h
      exact .ended (by simp [TickEvent.IsHeight, Phase.request]) (aimless _) rfl ht rfl

/-- The course of a tick that finds a watermark. -/
theorem Trace.course_of_some {t : TickStep} {m : UInt64}
    (h : o.Trace (.waiting (.head m) (v.setState .scanning)) es t) (hu : Undisturbed es)
    (hv : v.watermark? o.chain = some m) : o.Course v es t := by
  rcases h.of_waiting hu with ⟨rfl, rfl⟩ | ⟨reply, fs, rfl, h, hfs⟩
  · exact .waiting (by simp) (by simp) (by simp [Phase.stage])
  cases reply with
  | error f =>
    obtain ⟨rfl, ht⟩ := Trace.of_finished h
    exact .ended (by simp [TickEvent.IsHeight, Phase.request]) (by simp [Phase.request]) rfl
      ht rfl
  | ok head =>
    simp only [resumeTick, afterHead] at h
    split at h
    · rename_i hnone
      obtain ⟨rfl, ht⟩ := Trace.of_finished h
      refine .ended (by simp [TickEvent.IsHeight, Phase.request]) ?_ rfl ht rfl
      rintro head' w hmem ⟨m', hm', hw⟩
      obtain rfl : m = m' := Option.some.inj (hv.symm.trans hm')
      obtain rfl : head' = head := by simpa [Phase.request] using hmem
      have hno : Window.next? m head' v.progress.window = none := hnone
      rw [hno] at hw
      cases hw
    · rename_i w hw
      have aims : o.Aims v head w := ⟨m, hv, hw⟩
      rcases h.of_waiting hfs with ⟨rfl, rfl⟩ | ⟨reply, gs, rfl, h, hgs⟩
      · exact .fetching aims
      cases reply with
      | error f =>
        obtain ⟨rfl, ht⟩ := Trace.of_finished h
        exact .failed aims ht rfl
      | ok entries => exact .relaying aims h hgs rfl rfl

/-- **The course of a tick.** -/
theorem Trace.course {t : TickStep} (h : o.Trace (o.startTick v) es t) (hu : Undisturbed es) :
    o.Course v es t := by
  rw [startTick_eq] at h
  cases hv : v.watermark? o.chain with
  | none =>
    rw [hv] at h
    exact h.course_of_none hu hv
  | some m =>
    rw [hv] at h
    exact h.course_of_some hu hv

end Observer

end BridgeWatch
