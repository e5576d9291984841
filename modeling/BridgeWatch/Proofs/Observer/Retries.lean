import BridgeWatch.Proofs.Observer.ScanWindow
import BridgeWatch.Proofs.Settings.Construction

/-!
# Ranges that are tried again

A tick that applies no window leaves behind what the next one needs to go on where it stood.

* `Observer.ranges` is what a tick asks for, `Observer.Extends` the ranges that there are to ask
  for: from right behind the watermark, up to a head past it, with as many blocks at most as the
  window of the next scan allows. A tick asks for one such range or for none (`Course.ranges`).
* `Observer.Changes` is what a tick may do to its watermark and to the window of the next scan
  (`Course.changes`). Only the answer to a fetch can make that window smaller.
* `Observer.Retries`: after a tick that has not applied its window, a later one asks for a range
  that starts at the same block, and for the same range if nothing else has changed
  (`History.retries`).
-/

namespace BridgeWatch

/-- The range of logs for which a remote end is asked. -/
def Request.range? : Request → Option (Address × Window)
  | logs contract w => some (contract, w)
  | recordedHeight _ | head | submit _ => none

/-- The range for which an event brings an answer. -/
def TickEvent.range? : TickEvent → Option (Address × Window)
  | answered q _ => q.range?
  | overridden _ => none

/-- The range for which a tick waits. -/
def TickStep.range? (o : Observer) : TickStep → Option (Address × Window)
  | waiting p _ => (p.request o).range?
  | finished _ _ => none

/-- A fetch of logs was refused as too large. -/
def RangeRefused (es : List TickEvent) : Prop :=
  ∃ contract w chain first last limit,
    .answered (.logs contract w) (.error (.rangeTooLarge chain first last limit)) ∈ es

theorem TickEvent.IsHeight.range? {e : TickEvent} (h : e.IsHeight) : e.range? = none := by
  unfold IsHeight at h
  split at h
  · rfl
  · rfl
  all_goals exact h.elim

theorem TickEvent.IsLate.range? {e : TickEvent} (h : e.IsLate) : e.range? = none := by
  unfold IsLate at h
  split at h
  · rfl
  · rfl
  all_goals exact h.elim

theorem TickStep.range?_of_stage {o : Observer} {t : TickStep} (h : t.stage = 0) :
    t.range? o = none := by
  cases t with
  | waiting p v =>
    cases p with
    | relay => rfl
    | lookup | firstHead | head | fetch => cases h
  | finished result v => rfl

theorem not_rangeRefused {es : List TickEvent} (h : ∀ e ∈ es, e.range? = none) :
    ¬RangeRefused es := by
  rintro ⟨contract, w, chain, first, last, limit, hmem⟩
  cases h _ hmem

namespace Observer

/-- The ranges for which a tick asks: those that were answered, and the one for which it waits. -/
def ranges (o : Observer) (es : List TickEvent) (t : TickStep) : List (Address × Window) :=
  es.filterMap TickEvent.range? ++ (t.range? o).toList

/-- A range goes on behind the watermark, up to a head past it, and has no more blocks than the
window of the next scan allows. -/
structure Extends (o : Observer) (v : View) (head : UInt64) (w : Window) : Prop where
  first : ∃ m, v.watermark? o.chain = some m ∧ m < head ∧ w.first.toNat = m.toNat + 1
  first_le : w.first ≤ w.last
  last_le : w.last ≤ head
  size_le : w.last.toNat - w.first.toNat + 1 ≤ v.progress.window.toNat

/-- What a tick may change. -/
structure Changes (o : Observer) (v : View) (es : List TickEvent) (result : TickResult)
    (v' : View) : Prop where
  /-- A tick that fails, holds its window or finds no new blocks keeps the watermark. -/
  watermark : result.written? = none → v'.watermark? o.chain = v.watermark? o.chain
  /-- A tick that applies a window has asked for it, and moves the watermark to its end. -/
  applied : ∀ w tally, result = .ok (.applied w tally) →
    o.ranges es (.finished result v') = [(o.contract, w)] ∧
      v'.watermark? o.chain = some w.last ∧ v'.progress.window = o.maxWindow
  /-- A fetch that is refused as too large halves the window of the next scan. -/
  halved : RangeRefused es → v'.progress.window.toNat = max (v.progress.window.toNat / 2) 1
  /-- Nothing else makes it smaller. -/
  kept : ¬RangeRefused es → result.applied? = none → v'.progress.window = v.progress.window

/-- What a tick asks for when an earlier one with the events `es` has asked for a range, and what
has happened in between has not brought the watermark forward. -/
structure Retries (o : Observer) (es : List TickEvent) (w : Window) (between : List Episode)
    (fs : List TickEvent) (t : TickStep) : Prop where
  /-- It starts at the same block. -/
  first : ∀ r ∈ o.ranges fs t, r.1 = o.contract ∧ r.2.first = w.first
  /-- It asks for the same range if it reads the same head and no fetch was refused as too large. -/
  same : ∀ head, .answered .head (.ok head) ∈ es → .answered .head (.ok head) ∈ fs →
    ¬RangeRefused es → (∀ i ∈ between, ¬RangeRefused i.events) →
      o.ranges fs t = [(o.contract, w)]

section Ticks

variable {o : Observer} {v : View} {es : List TickEvent} {t : TickStep}

/-! ## What a tick asks for -/

theorem ranges_of_heights (h : ∀ e ∈ es, e.IsHeight) (ht : t.range? o = none) :
    o.ranges es t = [] := by
  rw [ranges, List.filterMap_eq_nil_iff.2 fun e he => (h e he).range?, ht]
  rfl

/-- A window that a tick scans starts right behind the watermark. -/
theorem Aims.first_eq {head : UInt64} {w : Window} (h : o.Aims v head w) {m : UInt64}
    (hm : v.watermark? o.chain = some m) : w.first.toNat = m.toNat + 1 := by
  obtain ⟨m', hm', hw⟩ := h
  obtain rfl : m' = m := Option.some.inj (hm'.symm.trans hm)
  exact (Window.follows_next? hw).1.first_eq

theorem Aims.extends {head : UInt64} {w : Window} (h : o.Aims v head w)
    (hv : 1 ≤ v.progress.window) : o.Extends v head w := by
  obtain ⟨m, hm, hw⟩ := h
  obtain ⟨hfollows, hlast⟩ := Window.follows_next? hw
  have hsize := UInt64.le_iff_toNat_le.1 (Window.size_next?_le hv hw)
  have hfirst := hfollows.first_eq
  have hle := UInt64.le_iff_toNat_le.1 hfollows.first_le
  rw [hfollows.toNat_size] at hsize
  refine ⟨⟨m, hm, ?_, hfirst⟩, hfollows.first_le, hlast, by omega⟩
  exact UInt64.lt_of_lt_of_le hfollows.lt_last hlast

/-- A tick that relays logs has asked for one range, theirs. -/
theorem Trace.ranges_of_relaying {w : Window} {tally : Tally} {entries entries' : List LogEntry}
    {fs : List TickEvent} (h : o.Trace (o.relayEntries w tally entries v) fs t) (head : UInt64) :
    o.ranges (.answered .head (.ok head) :: .answered (.logs o.contract w) (.ok entries') :: fs) t =
      [(o.contract, w)] := by
  obtain ⟨ht, late⟩ := h.late_of_stage (o.relayEntries_measure ..).1
  have hfs : fs.filterMap TickEvent.range? = [] :=
    List.filterMap_eq_nil_iff.2 fun e he => (late e he).range?
  show _ :: (fs.filterMap TickEvent.range? ++ (t.range? o).toList) = _
  rw [hfs, TickStep.range?_of_stage ht]
  rfl

/-- **A tick asks for no range, or for the one behind the watermark.** In the first case no head
that it has read leaves a range to ask for; in the second it has read one head. -/
theorem Course.ranges (h : o.Course v es t) :
    (o.ranges es t = [] ∧ ∀ head w, .answered .head (.ok head) ∈ es → ¬o.Aims v head w) ∨
      ∃ head w, o.ranges es t = [(o.contract, w)] ∧ o.Aims v head w ∧
        ∀ head', .answered .head (.ok head') ∈ es ↔ head' = head := by
  cases h with
  | @waiting es p u heights aimless early =>
    refine .inl ⟨ranges_of_heights heights ?_, aimless⟩
    cases p with
    | lookup | firstHead | head => rfl
    | fetch | relay => simp [Phase.stage] at early
  | ended heights aimless idle last window =>
    subst last
    exact .inl ⟨ranges_of_heights heights rfl, aimless⟩
  | @fetching head w u aims => exact .inr ⟨head, w, rfl, aims, by simp⟩
  | @failed head w f u t aims last window =>
    subst last
    exact .inr ⟨head, w, rfl, aims, by simp⟩
  | @relaying head w entries fs u t aims run quiet watermark window =>
    refine .inr ⟨head, w, run.ranges_of_relaying head, aims, ?_⟩
    intro head'
    have hfs : .answered .head (.ok head') ∉ fs := fun hmem =>
      (run.late_of_stage (o.relayEntries_measure ..).1).2 _ hmem
    simp [hfs]

/-- A tick that asks for a range has read one head, and aims at the range. -/
theorem Course.aims (h : o.Course v es t) {w : Window} (asked : o.ranges es t = [(o.contract, w)]) :
    ∃ head, o.Aims v head w ∧ ∀ head', .answered .head (.ok head') ∈ es ↔ head' = head := by
  rcases h.ranges with ⟨hnone, -⟩ | ⟨head, w', hone, aims, heads⟩
  · rw [hnone] at asked
    cases asked
  · rw [hone] at asked
    cases asked
    exact ⟨head, aims, heads⟩

/-- The window that a tick applies is the one whose entries it has relayed. -/
theorem Trace.window_of_relaying {w w' : Window} {tally tally' : Tally} {entries : List LogEntry}
    {v' : View} (hw : ∃ m, v.watermark? o.chain = some m ∧ w.Follows m) (hu : Undisturbed es)
    (h : o.Trace (o.relayEntries w tally entries v) es (.finished (.ok (.applied w' tally')) v')) :
    w' = w := by
  cases ho : o.policy with
  | hold => exact (h.relay_hold ho hu).1
  | skip =>
    obtain ⟨⟨tally'', heq⟩, -⟩ := h.relay_skip ho hw hu
    cases heq
    rfl

/-- The window that a tick applies is the one for which it has asked. -/
theorem Course.ranges_of_applied {w : Window} {tally : Tally} {v' : View}
    (h : o.Course v es (.finished (.ok (.applied w tally)) v')) :
    o.ranges es (.finished (.ok (.applied w tally)) v') = [(o.contract, w)] := by
  cases h with
  | ended heights aimless idle last window =>
    cases last
    cases idle
  | failed aims last window => cases last
  | @relaying head w' entries fs u _ aims run quiet watermark window =>
    obtain ⟨m, hm, hw⟩ := aims
    obtain rfl : w = w' :=
      run.window_of_relaying ⟨m, watermark.trans hm, (Window.follows_next? hw).1⟩ quiet
    exact run.ranges_of_relaying head

/-! ## What a tick changes -/

/-- What a tick does to the window of the next scan. -/
theorem Course.window {result : TickResult} {v' : View}
    (h : o.Course v es (.finished result v')) :
    (RangeRefused es ∧ result.applied? = none ∧
        v'.progress.window = Observer.halved v.progress.window) ∨
      ¬RangeRefused es ∧ o.Settles v.progress.window (.finished result v') := by
  cases h with
  | @ended es result' u t heights aimless idle last window =>
    refine .inr ⟨not_rangeRefused fun e he => (heights e he).range?, ?_⟩
    rw [last]
    exact settles_finishTick idle window
  | @failed head w f u t aims last window =>
    obtain ⟨u', hu', hwindow⟩ := o.afterFetch_error (v := u) w f
    rw [hu'] at last
    cases last
    rcases hwindow with ⟨⟨chain, first, last, limit, rfl⟩, half⟩ | ⟨hne, same⟩
    · exact .inl ⟨⟨o.contract, w, chain, first, last, limit, by simp⟩, rfl, window ▸ half⟩
    · refine .inr ⟨?_, .ended rfl (same.trans window)⟩
      rintro ⟨contract, w', chain, first, last, limit, hmem⟩
      simp only [List.mem_cons, List.not_mem_nil, or_false] at hmem
      rcases hmem with heq | heq
      · cases heq
      · cases heq
        exact hne _ _ _ _ rfl
  | @relaying head w entries fs u t aims run quiet watermark window =>
    obtain ⟨-, hlate⟩ := run.late_of_stage (o.relayEntries_measure ..).1
    refine .inr ⟨?_, run.settles (o.relayEntries_measure ..).1 (settles_relayEntries _ _ _ window)⟩
    rintro ⟨contract, w', chain, first, last, limit, hmem⟩
    simp only [List.mem_cons] at hmem
    rcases hmem with heq | heq | hmem
    · cases heq
    · simp at heq
    · exact hlate _ hmem

/-- **What a tick may change.** -/
theorem Trace.changes {result : TickResult} {v' : View}
    (h : o.Trace (o.startTick v) es (.finished result v')) (hu : Undisturbed es) :
    o.Changes v es result v' := by
  have hmark : v'.watermark? o.chain = result.written?.or (v.watermark? o.chain) :=
    (h.of_startTick hu).2
  have hwindow := (h.course hu).window
  refine ⟨?_, ?_, ?_, ?_⟩
  · intro hnone
    rw [hmark, hnone]
    rfl
  · rintro w tally rfl
    refine ⟨(h.course hu).ranges_of_applied, hmark, ?_⟩
    rcases hwindow with ⟨-, idle, -⟩ | ⟨-, settles⟩
    · cases idle
    · cases settles with
      | applied largest => exact largest
      | ended idle same => cases idle
  · intro refused
    rcases hwindow with ⟨-, -, half⟩ | ⟨hnot, -⟩
    · rw [half, toNat_halved]
    · exact absurd refused hnot
  · intro hnot idle
    rcases hwindow with ⟨refused, -, -⟩ | ⟨-, settles⟩
    · exact absurd refused hnot
    · cases settles with
      | applied largest => cases idle
      | ended idle same => exact same

/-- A watermark stays if no window is applied. -/
theorem Trace.watermark_of_idle {result : TickResult} {v' : View}
    (h : o.Trace (o.startTick v) es (.finished result v')) (hu : Undisturbed es)
    (idle : result.applied? = none) {m : UInt64} (hm : v.watermark? o.chain = some m) :
    v'.watermark? o.chain = some m := by
  rcases h.watermark_cases hu with ⟨_, rfl, hnone, -⟩ | ⟨_, _, _, rfl, -⟩ | ⟨-, -, same⟩
  · rw [hm] at hnone
    cases hnone
  · cases idle
  · exact same.trans hm

end Ticks

end Observer

/-- The tick of an episode has been left alone and has applied no window. -/
def Episode.IsFruitless : Episode → Prop
  | tick es result => Undisturbed es ∧ result.applied? = none
  | dropped es => Undisturbed es
  | restart | overridden _ => False

namespace Observer

variable {o : Observer} {v : View} {es : List TickEvent}

/-! ## What a later tick asks for -/

/-- Ticks that apply no window keep the watermark, and the window of the next scan unless a fetch
is refused as too large. -/
theorem History.keeps {u : View} {js : List Episode} (h : o.History v js u)
    (fruitless : ∀ j ∈ js, j.IsFruitless) {m : UInt64} (hm : v.watermark? o.chain = some m) :
    u.watermark? o.chain = some m ∧
      ((∀ j ∈ js, ¬RangeRefused j.events) → u.progress.window = v.progress.window) := by
  induction h with
  | nil => exact ⟨hm, fun _ => rfl⟩
  | @tick js u u' es result before run ih =>
    simp only [List.forall_mem_append, List.forall_mem_singleton] at fruitless ⊢
    obtain ⟨earlier, hu, idle⟩ := fruitless
    obtain ⟨hm', hwindow⟩ := ih earlier
    refine ⟨run.watermark_of_idle hu idle hm', ?_⟩
    rintro ⟨hearlier, hnot⟩
    exact ((run.changes hu).kept hnot idle).trans (hwindow hearlier)
  | @dropped js u u' es p before run ih =>
    simp only [List.forall_mem_append, List.forall_mem_singleton] at fruitless ⊢
    obtain ⟨earlier, hu⟩ := fruitless
    obtain ⟨hm', hwindow⟩ := ih earlier
    refine ⟨(run.of_startTick hu).2.trans hm', ?_⟩
    rintro ⟨hearlier, -⟩
    cases run.resizes (o.resizes_startTick u) with
    | waiting same => exact same.trans (hwindow hearlier)
  | restart before => exact (fruitless .restart (by simp)).elim
  | overridden before height => exact (fruitless (.overridden height) (by simp)).elim

/-- **A range that was not applied is tried again.** -/
theorem History.retries {result : TickResult} {v' : View}
    (run : o.Trace (o.startTick v) es (.finished result v')) (quiet : Undisturbed es)
    (idle : result.applied? = none) {w : Window}
    (asked : o.ranges es (.finished result v') = [(o.contract, w)])
    {u : View} {js : List Episode} (between : o.History v' js u)
    (fruitless : ∀ j ∈ js, j.IsFruitless) {fs : List TickEvent} {t : TickStep}
    (later : o.Trace (o.startTick u) fs t) (quiet' : Undisturbed fs) :
    o.Retries es w js fs t := by
  obtain ⟨head, aims, heads⟩ := (run.course quiet).aims asked
  obtain ⟨m, hm, hw⟩ := id aims
  -- The watermark is where the first of the two ticks found it, and a window starts behind it.
  obtain ⟨hmu, hwindow⟩ := between.keeps fruitless (run.watermark_of_idle quiet idle hm)
  refine ⟨?_, ?_⟩
  · intro r hr
    rcases (later.course quiet').ranges with ⟨hnone, -⟩ | ⟨head', w', hone, aims', -⟩
    · rw [hnone] at hr
      cases hr
    · rw [hone, List.mem_singleton] at hr
      subst hr
      refine ⟨rfl, UInt64.toNat_inj.1 ?_⟩
      rw [aims'.first_eq hmu, aims.first_eq hm]
  · intro head' hes hfs hnot hbetween
    obtain rfl : head' = head := (heads head').1 hes
    have hsame : u.progress.window = v.progress.window :=
      (hwindow hbetween).trans ((run.changes quiet).kept hnot idle)
    have aims' : o.Aims u head' w := ⟨m, hmu, hsame ▸ hw⟩
    rcases (later.course quiet').ranges with ⟨-, aimless⟩ | ⟨head'', w', hone, aims'', heads'⟩
    · exact absurd aims' (aimless head' w hfs)
    · obtain rfl : head' = head'' := (heads' head').1 hfs
      rw [hone, aims''.unique aims']

/-! ## Ticks of an observer with settings -/

/-- **What a tick may change, and what the next one asks for.** Whatever has happened to an observer
before, a tick that is left alone finds a window of the next scan between one block and the maximum;
it asks for no range, or for one behind its watermark; it changes its watermark and that window only
as its end and its answers say; and if it has asked for a range and not applied it, then ticks that
apply nothing either do not change where the next range starts. -/
theorem tick_changes {chain : ChainId} {s : ChainSettings} {unhealthyAfter : UInt32}
    (ho : Observer.ofSettings chain s unhealthyAfter = .ok o) {shared : Shared}
    {is : List Episode} (reached : o.History ⟨o.initialProgress, shared⟩ is v) {t : TickStep}
    (run : o.Trace (o.startTick v) es t) (quiet : Undisturbed es) :
    (1 ≤ v.progress.window ∧ v.progress.window ≤ o.maxWindow) ∧
    (o.ranges es t = [] ∨ ∃ head w, o.ranges es t = [(o.contract, w)] ∧
      .answered .head (.ok head) ∈ es ∧ o.Extends v head w) ∧
    ∀ result v', t = .finished result v' →
      o.Changes v es result v' ∧
      ∀ w, result.applied? = none → o.ranges es t = [(o.contract, w)] →
        ∀ u between, o.History v' between u → (∀ i ∈ between, i.IsFruitless) →
          ∀ fs later, o.Trace (o.startTick u) fs later → Undisturbed fs →
            o.Retries es w between fs later := by
  obtain ⟨schema, contract, -, -, rfl⟩ := ofSettings_eq_ok_iff.1 ho
  have hone := one_le_max_one s.maxWindow
  have hv := reached.scans hone ⟨hone, UInt64.le_refl _⟩
  refine ⟨hv, ?_, ?_⟩
  · rcases (run.course quiet).ranges with ⟨hnone, -⟩ | ⟨head, w, hrange, aims, heads⟩
    · exact .inl hnone
    · exact .inr ⟨head, w, hrange, (heads head).2 rfl, aims.extends hv.1⟩
  · rintro result v' rfl
    refine ⟨run.changes quiet, ?_⟩
    intro w idle asked u js between fruitless fs later hlater hfs
    exact History.retries run quiet idle asked between fruitless hlater hfs

/-- Standard settings with a limit of ten blocks, a watermark of 100 and a head of 137: the blocks
101 to 110 are refused as too many, and the next tick starts at block 101 with five at most. -/
theorem tick_changes_sampleRefusal : ∃ o v',
    Observer.ofSettings ⟨"goerli"⟩ (.limited 10) 5 = .ok o ∧
      o.Trace (o.startTick ⟨o.initialProgress, Shared.empty.setWatermark ⟨"goerli"⟩ 100⟩)
        [.answered .head (.ok 137), .answered (.logs o.contract ⟨101, 110⟩)
          (.error (.rangeTooLarge ⟨"goerli"⟩ 101 110 10))]
        (.finished (.error (.rangeTooLarge ⟨"goerli"⟩ 101 110 10)) v') ∧
      v'.progress.window.toNat = 5 ∧
      ∀ fs t, o.Trace (o.startTick v') fs t → Undisturbed fs →
        ∀ r ∈ o.ranges fs t, r.2.first = 101 := by
  obtain ⟨c, o, -, ho⟩ := ChainSettings.exists_connected ⟨"goerli"⟩ 10 5
  obtain ⟨schema, contract, -, -, heq⟩ := ofSettings_eq_ok_iff.1 ho
  obtain ⟨v', run⟩ : ∃ v',
      o.Trace (o.startTick ⟨o.initialProgress, Shared.empty.setWatermark ⟨"goerli"⟩ 100⟩)
        [.answered .head (.ok 137), .answered (.logs o.contract ⟨101, 110⟩)
          (.error (.rangeTooLarge ⟨"goerli"⟩ 101 110 10))]
        (.finished (.error (.rangeTooLarge ⟨"goerli"⟩ 101 110 10)) v') := by
    rw [heq]
    exact ⟨_, .answered (p := .head 100) (.ok 137)
      (.answered (p := .fetch ⟨101, 110⟩) (.error (.rangeTooLarge ⟨"goerli"⟩ 101 110 10))
        (.refl _))⟩
  have quiet : Undisturbed [.answered .head (.ok 137), .answered (.logs o.contract ⟨101, 110⟩)
      (.error (.rangeTooLarge ⟨"goerli"⟩ 101 110 10))] := by simp
  obtain ⟨-, -, h⟩ := tick_changes ho .nil run quiet
  obtain ⟨changes, retries⟩ := h _ v' rfl
  refine ⟨o, v', ho, run, ?_, ?_⟩
  · rw [changes.halved ⟨_, _, _, _, _, _, List.mem_cons_of_mem _ List.mem_cons_self⟩, heq]
    show max ((max (10 : UInt64) 1).toNat / 2) 1 = 5
    rw [toNat_max]
    rfl
  · intro fs t later hfs r hr
    exact ((retries ⟨101, 110⟩ rfl rfl v' [] .nil (by simp) fs t later hfs).first r hr).2

end Observer

end BridgeWatch
