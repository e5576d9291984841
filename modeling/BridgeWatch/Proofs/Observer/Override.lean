import BridgeWatch.Proofs.Observer.Relaying

/-!
# Overrides that arrive during a tick

A tick reads the watermark at its beginning and writes it at its end. An operator's override may
arrive in between, at any point where the tick waits.

* `Trace.override_stands_iff`: the override stands after the tick exactly when the tick does not
  overwrite it (`TickResult.Overwrites`), that is, neither initializes the chain at another height
  nor applies a window that ends past the override. An override past the window always stands, for
  the watermark is not moved back; one below the window's end does not.
* `Trace.override_iff`: while the override stands, the next window that is fetched begins right
  behind it, and a head past it makes the next tick fetch one.
-/

namespace BridgeWatch

/-- A tick that ends so writes another watermark over an override. -/
def TickResult.Overwrites (height : UInt64) : TickResult → Prop
  | .ok (.initialized h) => h ≠ height
  | .ok (.applied w _) => height < w.last
  | _ => False

namespace Observer

variable {o : Observer}

/-! ## The end of a tick with an override -/

/-- After a tick, finished or dropped, the watermark is the latest override in it unless the tick
has written another one. A window that is applied does not end below the override. -/
theorem Trace.watermark_of_override {s t : TickStep} {before after : List TickEvent}
    {height : UInt64} (h : o.Trace s (before ++ .overridden height :: after) t)
    (latest : Undisturbed after) :
    t.view.watermark? o.chain = some (t.written?.getD height) ∧
      ∀ w tally v, t = .finished (.ok (.applied w tally)) v → height ≤ w.last := by
  obtain ⟨u, -, h⟩ := h.of_append
  cases h with
  | @overridden p v es t height rest =>
    obtain ⟨hw, hle⟩ := rest.effect latest
    rw [View.watermark?_override] at hw hle
    refine ⟨?_, ?_⟩
    · rw [hw]
      cases t.written? <;> rfl
    · intro w tally v ht
      exact hle w tally v ht height rfl

/-- **An override stands exactly when the tick does not overwrite it.** -/
theorem Trace.override_stands_iff {s : TickStep} {v : View} {result : TickResult}
    {before after : List TickEvent} {height : UInt64}
    (h : o.Trace s (before ++ .overridden height :: after) (.finished result v))
    (latest : Undisturbed after) :
    v.watermark? o.chain = some height ↔ ¬result.Overwrites height := by
  obtain ⟨hw, hle⟩ := h.watermark_of_override latest
  have hw : v.watermark? o.chain = some (result.written?.getD height) := hw
  rw [hw, Option.some_inj]
  cases result with
  | error f => simp [TickResult.written?, TickResult.Overwrites]
  | ok outcome =>
    cases outcome with
    | initialized start => simp [TickResult.written?, TickResult.Overwrites]
    | noNewBlocks head => simp [TickResult.written?, TickResult.Overwrites]
    | held w forwarded error => simp [TickResult.written?, TickResult.Overwrites]
    | applied w tally =>
      have hle : height ≤ w.last := hle w tally v rfl
      show w.last = height ↔ ¬height < w.last
      rw [UInt64.not_lt]
      exact ⟨fun heq => heq ▸ UInt64.le_refl _, fun hge => UInt64.le_antisymm hge hle⟩

/-! ## The next window -/

/-- A tick that fetches nothing leaves a watermark as it is. -/
theorem Trace.stays_of_no_logs {v v' : View} {es : List TickEvent} {result : TickResult}
    {height : UInt64} (h : o.Trace (o.startTick v) es (.finished result v')) (hu : Undisturbed es)
    (hv : v.watermark? o.chain = some height)
    (unfetched : ∀ contract w answer, .answered (.logs contract w) answer ∉ es) :
    v'.watermark? o.chain = some height := by
  rcases h.watermark_cases hu with ⟨start, -, hn, -⟩ | ⟨m, w, tally, rfl, -, -, -⟩ | ⟨-, -, hw⟩
  · rw [hv] at hn
    cases hn
  · rcases h.tick_cases hu with ⟨-, -, -, ha⟩ | ⟨head, w', entries, fs, u, rfl, -⟩
    · cases ha
    · exact absurd (by simp) (unfetched o.contract w' (.ok entries))
  · exact hw.trans hv

/-- The window that a tick fetches begins right behind the watermark that the tick found. -/
theorem Trace.fetches_behind {v v' : View} {es : List TickEvent} {w : Window} {height : UInt64}
    (h : o.Trace (o.startTick v) es (.waiting (.fetch w) v')) (hu : Undisturbed es)
    (hv : v.watermark? o.chain = some height) : w.Follows height := by
  obtain ⟨⟨-, m, hm, hf⟩, -⟩ := h.of_startTick hu
  rw [hv] at hm
  cases hm
  exact hf

/-- A tick fetches a window when the head is past the watermark. -/
theorem exists_fetch {v : View} {height head : UInt64} (hv : v.watermark? o.chain = some height)
    (hlt : height < head) :
    ∃ w v', o.Trace (o.startTick v) [.answered .head (.ok head)] (.waiting (.fetch w) v') := by
  obtain ⟨w, hw⟩ := Option.isSome_iff_exists.1
    ((Window.next?_isSome_iff height head v.progress.window).2 hlt)
  have hstep : ∃ v', o.resumeTick (v.setState .scanning) (.head height) (.ok head) =
      .waiting (.fetch w) v' := by
    simp only [resumeTick, afterHead]
    split
    · rename_i hn
      exact absurd (hw.symm.trans hn) (by simp)
    · rename_i w' hw'
      obtain rfl : w = w' := Option.some.inj (hw.symm.trans hw')
      exact ⟨_, rfl⟩
  obtain ⟨v', hstep⟩ := hstep
  refine ⟨w, v', ?_⟩
  rw [startTick_eq, hv]
  refine .answered (p := .head height) (.ok head) ?_
  rw [hstep]
  exact .refl _

/-- Episodes without an override, a restart or a fetch leave a watermark as it is. -/
theorem History.stays_of_no_logs {v v' : View} {is : List Episode} {height : UInt64}
    (h : o.History v is v') (hv : v.watermark? o.chain = some height)
    (quiet : ∀ i ∈ is, i.IsQuiet ∧ i ≠ .restart)
    (unfetched : ∀ i ∈ is, ∀ contract w answer, .answered (.logs contract w) answer ∉ i.events) :
    v'.watermark? o.chain = some height := by
  induction h with
  | nil => exact hv
  | tick before run ih =>
    simp only [List.forall_mem_append, List.forall_mem_singleton] at quiet unfetched
    exact run.stays_of_no_logs quiet.2.1 (ih quiet.1 unfetched.1) unfetched.2
  | dropped before run ih =>
    simp only [List.forall_mem_append, List.forall_mem_singleton] at quiet unfetched
    obtain ⟨-, hw⟩ := run.of_startTick quiet.2.1
    exact hw.trans (ih quiet.1 unfetched.1)
  | restart before ih =>
    simp only [List.forall_mem_append, List.forall_mem_singleton] at quiet
    exact absurd rfl quiet.2.2
  | overridden before start ih =>
    simp only [List.forall_mem_append, List.forall_mem_singleton] at quiet
    exact quiet.2.1.elim

/-- **What becomes of an override in a tick.** The watermark after the tick is the latest override
in it exactly when the tick neither initializes the chain at another height nor applies a window
that ends past the override; otherwise it is what the tick has written. If the override stands, the
next window that is fetched begins right behind it, and one is fetched once the head is past it. -/
theorem Trace.override_iff {v v' : View} {result : TickResult} {before after : List TickEvent}
    {height : UInt64}
    (h : o.Trace (o.startTick v) (before ++ .overridden height :: after) (.finished result v'))
    (latest : Undisturbed after) :
    (v'.watermark? o.chain = some height ↔ ¬result.Overwrites height) ∧
      v'.watermark? o.chain = some (result.written?.getD height) ∧
      (¬result.Overwrites height → ∀ is u, o.History v' is u →
        (∀ i ∈ is, i.IsQuiet ∧ i ≠ .restart) →
        (∀ i ∈ is, ∀ contract w answer, .answered (.logs contract w) answer ∉ i.events) →
          (∀ es w u', o.Trace (o.startTick u) es (.waiting (.fetch w) u') → Undisturbed es →
              w.first.toNat = height.toNat + 1) ∧
            ∀ head, height < head → ∃ w u',
              o.Trace (o.startTick u) [.answered .head (.ok head)] (.waiting (.fetch w) u')) := by
  have stands := h.override_stands_iff latest
  refine ⟨stands, (h.watermark_of_override latest).1, ?_⟩
  intro hno is u run quiet unfetched
  have hu := run.stays_of_no_logs (stands.2 hno) quiet unfetched
  refine ⟨?_, ?_⟩
  · intro es w u' hes hq
    exact (hes.fetches_behind hq hu).first_eq
  · intro head hlt
    exact exists_fetch hu hlt

/-- An override past the window in flight stands, and the next window begins behind it. -/
theorem override_past_window_stands :
    ∃ v, (sample .skip).Trace
        ((sample .skip).startTick ((sample .skip).initialView.override ⟨"sample"⟩ 100))
        [.answered .head (.ok 137), .overridden 150, .answered (.logs ⟨2⟩ ⟨101, 110⟩) (.ok [])]
        (.finished (.error (.regression ⟨"sample"⟩ 150 110)) v) ∧
      v.watermark? ⟨"sample"⟩ = some 150 := by
  have h : (sample .skip).Trace
      ((sample .skip).startTick ((sample .skip).initialView.override ⟨"sample"⟩ 100))
      ([.answered .head (.ok 137)] ++ .overridden 150 ::
        [.answered (.logs ⟨2⟩ ⟨101, 110⟩) (.ok [])])
      (.finished (.error (.regression ⟨"sample"⟩ 150 110)) _) := trace_iff_follow.2 rfl
  obtain ⟨hiff, -, -⟩ := h.override_iff (by simp)
  exact ⟨_, h, hiff.2 id⟩

/-- An override that arrives while a window behind it is fetched is lost, and so is one that arrives
while the chain is initialized: the watermark is moved past the first and back from the second. -/
theorem override_lost :
    (∃ v, (sample .skip).Trace
        ((sample .skip).startTick ((sample .skip).initialView.override ⟨"sample"⟩ 100))
        [.answered .head (.ok 137), .overridden 50, .answered (.logs ⟨2⟩ ⟨101, 110⟩) (.ok [])]
        (.finished (.ok (.applied ⟨101, 110⟩ .zero)) v) ∧
      v.watermark? ⟨"sample"⟩ = some 110) ∧
    ∃ v, (sample .skip).Trace ((sample .skip).startTick (sample .skip).initialView)
        [.overridden 200, .answered (.recordedHeight ⟨"sample"⟩) (.ok 100)]
        (.finished (.ok (.initialized 100)) v) ∧
      v.watermark? ⟨"sample"⟩ = some 100 :=
  ⟨⟨_, trace_iff_follow.2 rfl, rfl⟩, ⟨_, trace_iff_follow.2 rfl, rfl⟩⟩

end Observer

end BridgeWatch
