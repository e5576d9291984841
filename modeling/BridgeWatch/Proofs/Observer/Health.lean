import BridgeWatch.Proofs.Observer.Progress
import BridgeWatch.Proofs.Observer.Ranges
import Mathlib.Algebra.GroupWithZero.Nat
import Mathlib.Data.List.DropRight

/-!
# Health as a function of the ticks

The report on an observer depends on nothing but how its ticks went.

* `failing` are the ticks at the end that failed in a row.
* `ObserverStatus.Reflects`: the status is the one that the ticks tell, by the failures at their
  end, the heads they have read and how often they ended in which way. A tick keeps it
  (`Reflects.tick`).
* `HealthReport.Reflects` adds the judgement of the status. `History.health_reflects`: after any
  ticks, whatever the operator has overridden between or during them, the report reflects them, and
  the next scan is of the window it shows.
-/

namespace BridgeWatch

open TickEvent

/-! ## The status -/

/-- The longest stretch of ticks at the end that failed or were held. -/
def failing (ts : List TickResult) : List TickResult := ts.rtakeWhile fun t => t.failure?.isSome

/-- The status after ticks that ended in some way, read some heads and left a window for the next
scan. -/
structure ObserverStatus.Reflects (ts : List TickResult) (heads : List UInt64) (window : UInt64)
    (s : ObserverStatus) : Prop where
  failures : s.consecutiveFailures = min (2 ^ 32 - 1) (failing ts).length
  lastError : s.lastError = (failing ts).getLast?.bind TickResult.failure?
  state : s.state = if (failing ts).isEmpty then .idle else .faulted
  hadSuccess : s.hadSuccess = true ↔ ∃ t ∈ ts, t.failure? = none
  lastHead : s.lastHead = heads.getLast?
  window : s.window = window
  ticks : s.counters.ticks = ts.length
  windowsApplied : s.counters.windowsApplied = ts.countP (·.applied?.isSome)
  rangeRejections : s.counters.rangeRejections = ts.countP (·.isRangeTooLarge)
  connectionFailures : s.counters.connectionFailures = ts.countP (·.isConnection)
  eventsForwarded : s.counters.eventsForwarded = (ts.map (·.tally.forwarded)).sum
  eventsIgnored : s.counters.eventsIgnored = (ts.map (·.tally.ignored)).sum
  eventsSkipped : s.counters.eventsSkipped = (ts.map (·.tally.skipped)).sum

theorem failing_concat_of_failure {ts : List TickResult} {t : TickResult} {error : String}
    (h : t.failure? = some error) : failing (ts ++ [t]) = failing ts ++ [t] :=
  List.rtakeWhile_concat_pos _ _ _ (by rw [h]; rfl)

theorem failing_concat_of_success {ts : List TickResult} {t : TickResult}
    (h : t.failure? = none) : failing (ts ++ [t]) = [] :=
  List.rtakeWhile_concat_neg _ _ _ (by simp [h])

namespace ObserverStatus.Reflects

variable {ts : List TickResult} {heads : List UInt64} {window : UInt64} {s : ObserverStatus}

theorem start (window : UInt64) : (initial window).Reflects [] [] window where
  failures := rfl
  lastError := rfl
  state := rfl
  hadSuccess := by simp [initial]
  lastHead := rfl
  window := rfl
  ticks := rfl
  windowsApplied := rfl
  rangeRejections := rfl
  connectionFailures := rfl
  eventsForwarded := rfl
  eventsIgnored := rfl
  eventsSkipped := rfl

/-- **A tick is noted in the status.** -/
theorem tick (h : s.Reflects ts heads window) (head : Option UInt64) (next : UInt64)
    (t : TickResult) : (s.after head next t).Reflects (ts ++ [t]) (heads ++ head.toList) next := by
  have hcount (p : TickResult → Bool) :
      ts.countP p + (p t).toNat = (ts ++ [t]).countP p := by
    rw [List.countP_append, List.countP_singleton]
    cases p t <;> rfl
  have hsum (f : TickResult → Nat) : (ts.map f).sum + f t = ((ts ++ [t]).map f).sum := by
    rw [List.map_append, List.sum_append, List.map_singleton, List.sum_singleton]
  have hheads : head.or heads.getLast? = (heads ++ head.toList).getLast? := by
    cases head <;> simp
  -- The stretch of failures grows by a tick that failed, and is cut off by one that did not.
  have hfailing :
      (s.after head next t).consecutiveFailures =
          min (2 ^ 32 - 1) (failing (ts ++ [t])).length ∧
        t.failure? = (failing (ts ++ [t])).getLast?.bind TickResult.failure? ∧
        (s.after head next t).state =
          if (failing (ts ++ [t])).isEmpty then .idle else .faulted := by
    cases hf : t.failure? with
    | none =>
      rw [failing_concat_of_success hf]
      simp [after, hf]
    | some error =>
      rw [failing_concat_of_failure hf]
      have hmax : maxFailures = 2 ^ 32 - 1 := rfl
      have hcapped : min maxFailures (s.consecutiveFailures + 1) =
          min (2 ^ 32 - 1) ((failing ts).length + 1) := by
        have := h.failures
        omega
      simp [after, hf, hcapped]
  obtain ⟨hfailures, hlastError, hstate⟩ := hfailing
  exact
    { failures := hfailures
      lastError := hlastError
      state := hstate
      hadSuccess := by
        simp only [after, Bool.or_eq_true, h.hadSuccess, Option.isNone_iff_eq_none, List.mem_append,
          List.mem_singleton, or_and_right, exists_or, exists_eq_left]
        exact or_comm
      lastHead := (congrArg head.or h.lastHead).trans hheads
      window := rfl
      ticks := by simp [after, ObserverCounters.after, h.ticks]
      windowsApplied := (congrArg (· + _) h.windowsApplied).trans (hcount _)
      rangeRejections := (congrArg (· + _) h.rangeRejections).trans (hcount _)
      connectionFailures := (congrArg (· + _) h.connectionFailures).trans (hcount _)
      eventsForwarded := (congrArg (· + _) h.eventsForwarded).trans (hsum _)
      eventsIgnored := (congrArg (· + _) h.eventsIgnored).trans (hsum _)
      eventsSkipped := (congrArg (· + _) h.eventsSkipped).trans (hsum _) }

/-- Nothing has failed in a row and nothing has succeeded only before the first tick. -/
theorem ticks_eq_nil_iff (h : s.Reflects ts heads window) :
    ts = [] ↔ s.consecutiveFailures = 0 ∧ s.hadSuccess = false := by
  constructor
  · rintro rfl
    exact ⟨h.failures, by simpa using mt h.hadSuccess.1⟩
  · rintro ⟨hzero, hnone⟩
    by_contra hne
    have hfailing : failing ts = [] := by
      rw [← List.length_eq_zero_iff]
      have := h.failures
      omega
    have hlast := List.rtakeWhile_eq_nil_iff.1 hfailing hne
    have hsuccess := h.hadSuccess.2 ⟨ts.getLast hne, List.getLast_mem hne, by simpa using hlast⟩
    rw [hnone] at hsuccess
    cases hsuccess

end ObserverStatus.Reflects

/-- The judgement of a status. -/
theorem ObserverStatus.level_iff (s : ObserverStatus) (unhealthyAfter : UInt32) :
    (s.level unhealthyAfter = .unhealthy ↔ max 1 unhealthyAfter.toNat ≤ s.consecutiveFailures) ∧
      (s.level unhealthyAfter = .degraded ↔ 0 < s.consecutiveFailures ∧
        s.consecutiveFailures < max 1 unhealthyAfter.toNat) ∧
      (s.level unhealthyAfter = .healthy ↔
        s.consecutiveFailures = 0 ∧ s.hadSuccess = true) ∧
      (s.level unhealthyAfter = .unknown ↔
        s.consecutiveFailures = 0 ∧ s.hadSuccess = false) := by
  have hone : 1 ≤ max 1 unhealthyAfter.toNat := Nat.le_max_left ..
  unfold level
  cases hs : s.hadSuccess with
  | true => grind
  | false => grind

/-! ## The report -/

namespace Episode

/-- The observer goes on with its work: a tick that ran to its end, or an override. -/
def GoesOn : Episode → Prop
  | tick _ _ | overridden _ => True
  | dropped _ | restart => False

/-- The head that the tick of an episode has read, if it found the chain initialized. -/
def headRead? : Episode → Option UInt64
  | tick es _ => BridgeWatch.headRead? es
  | dropped _ | restart | overridden _ => none

/-- The window of the next scan after an episode. -/
def windowAfter (o : Observer) (window : UInt64) : Episode → UInt64
  | tick es result => o.windowAfter window es result
  | restart => o.maxWindow
  | dropped _ | overridden _ => window

end Episode

/-- How the ticks ended, in order. -/
def results (is : List Episode) : List TickResult := is.filterMap Episode.result?

/-- The report on an observer after some episodes. -/
structure HealthReport.Reflects (o : Observer) (is : List Episode) (r : HealthReport) : Prop where
  status : r.status.Reflects (results is) (is.filterMap Episode.headRead?)
    (is.foldl (Episode.windowAfter o) o.maxWindow)
  window : r.window = is.foldl (Episode.windowAfter o) o.maxWindow
  unhealthy : r.level = .unhealthy ↔ max 1 o.unhealthyAfter.toNat ≤ r.status.consecutiveFailures
  degraded : r.level = .degraded ↔ 0 < r.status.consecutiveFailures ∧
    r.status.consecutiveFailures < max 1 o.unhealthyAfter.toNat
  healthy : r.level = .healthy ↔ r.status.consecutiveFailures = 0 ∧
    ∃ t ∈ results is, t.failure? = none
  unknown : r.level = .unknown ↔ results is = []

theorem HealthReport.Reflects.of_status {o : Observer} {is : List Episode} {p : Progress}
    (shared : Shared) (h : p.status.Reflects (results is) (is.filterMap Episode.headRead?)
      (is.foldl (Episode.windowAfter o) o.maxWindow)) :
    (o.health p shared).Reflects o is := by
  obtain ⟨unhealthy, degraded, healthy, unknown⟩ := p.status.level_iff o.unhealthyAfter
  exact
    { status := h
      window := h.window
      unhealthy := unhealthy
      degraded := degraded
      healthy := by
        rw [← h.hadSuccess]
        exact healthy
      unknown := unknown.trans h.ticks_eq_nil_iff.symm }

namespace Observer

variable {o : Observer}

/-- **The progress of an observer tells how its ticks went.** -/
theorem History.reflects {s : Shared} {is : List Episode} {v : View}
    (run : o.History ⟨o.initialProgress, s⟩ is v) (on : ∀ i ∈ is, i.GoesOn) :
    v.progress.window = is.foldl (Episode.windowAfter o) o.maxWindow ∧
      v.progress.status.Reflects (results is) (is.filterMap Episode.headRead?)
        (is.foldl (Episode.windowAfter o) o.maxWindow) := by
  induction run with
  | nil => exact ⟨rfl, .start o.maxWindow⟩
  | @tick is u v es result before run ih =>
    simp only [List.forall_mem_append, List.forall_mem_singleton] at on
    obtain ⟨hwindow, hstatus⟩ := ih on.1
    obtain ⟨-, hprogress⟩ := run.progress
    rw [hprogress, results, Episode.filterMap_concat, Episode.filterMap_concat, List.foldl_append,
      ← hwindow]
    exact ⟨rfl, hstatus.tick _ _ _⟩
  | @overridden is u before height ih =>
    simp only [List.forall_mem_append, List.forall_mem_singleton] at on
    obtain ⟨hwindow, hstatus⟩ := ih on.1
    rw [results, Episode.filterMap_concat, Episode.filterMap_concat, List.foldl_append]
    refine ⟨hwindow, ?_⟩
    show ObserverStatus.Reflects (results is ++ []) (_ ++ []) _ u.progress.status
    rwa [List.append_nil, List.append_nil]
  | dropped | restart =>
    simp only [List.forall_mem_append, List.forall_mem_singleton] at on
    exact on.2.elim

/-- **Health is a function of the ticks.** After any ticks, with any results and whatever has been
overridden between or during them, the report on an observer is the one that they tell. The next
scan is of the window that the report shows. The heads that count are those of ticks that found the
chain initialized: any other tick asks where to start it, and no tick asks without need. -/
theorem History.health_reflects {s : Shared} {is : List Episode} {v : View}
    (run : o.History ⟨o.initialProgress, s⟩ is v) (on : ∀ i ∈ is, i.GoesOn) :
    (o.health v.progress v.shared).Reflects o is ∧
      (∀ es w u, o.Trace (o.startTick v) es (.waiting (.fetch w) u) →
        ∃ m head, v.watermark? o.chain = some m ∧
          Window.next? m head (o.health v.progress v.shared).window = some w) ∧
      ∀ u es result u', o.Trace (o.startTick u) es (.finished result u') →
        (es.any isStart = true ↔ u.watermark? o.chain = none) := by
  obtain ⟨hwindow, hstatus⟩ := run.reflects on
  refine ⟨.of_status v.shared hstatus, ?_, fun u es result u' h => h.progress.1⟩
  intro es w u h
  have hshown : (o.health v.progress v.shared).window = v.progress.window :=
    hstatus.window.trans hwindow.symm
  rw [hshown]
  exact (h.plans (o.plans_startTick v)).1

/-- A tick that initializes the chain, one that asks for too many blocks, an override, a tick
without a connection, and one that is held while the watermark is overridden. -/
def sampleFailures : List Episode :=
  [.tick [.answered (.recordedHeight ⟨"sample"⟩) (.ok 5)] (.ok (.initialized 5)),
    .tick [.answered .head (.ok 8),
      .answered (.logs ⟨2⟩ ⟨6, 8⟩) (.error (.rangeTooLarge ⟨"sample"⟩ 6 8 2))]
      (.error (.rangeTooLarge ⟨"sample"⟩ 6 8 2)),
    .overridden 4,
    .tick [.answered .head (.error (.connection ⟨"sample"⟩ "refused"))]
      (.error (.connection ⟨"sample"⟩ "refused")),
    .tick [.answered .head (.ok 20), .answered (.logs ⟨2⟩ ⟨5, 9⟩) (.ok [.sample]), .overridden 2,
      .answered (.submit .sample) (.error default)]
      (.ok (.held ⟨5, 9⟩ 0 (Fault.asSubmission default).message))]

set_option maxRecDepth 4000 in
theorem health_reflects_sampleFailures :
    ∃ v, (sample .hold).History ⟨(sample .hold).initialProgress, .empty⟩ sampleFailures v ∧
      (∀ i ∈ sampleFailures, i.GoesOn) ∧
      ((sample .hold).health v.progress v.shared).level = .degraded ∧
      v.progress.status.consecutiveFailures = 3 ∧ v.progress.status.lastHead = some 20 ∧
      v.progress.status.window = 5 := by
  have run : (sample .hold).History ⟨(sample .hold).initialProgress, .empty⟩ sampleFailures _ :=
    .tick (.tick (.overridden (.tick (.tick .nil (trace_iff_follow.2 rfl))
      (trace_iff_follow.2 rfl)) 4) (trace_iff_follow.2 rfl)) (trace_iff_follow.2 rfl)
  have on : ∀ i ∈ sampleFailures, i.GoesOn := by
    simp [sampleFailures, Episode.GoesOn]
  obtain ⟨h, -, -⟩ := History.health_reflects run on
  have hfailures := h.status.failures.trans (show _ = 3 from rfl)
  refine ⟨_, run, on, h.degraded.2 ?_, hfailures, h.status.lastHead, h.status.window⟩
  rw [hfailures]
  decide

end Observer

end BridgeWatch
