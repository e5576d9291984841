import BridgeWatch.Proofs.Observer.ScanWindow

/-!
# What a tick does to the progress

The progress of an observer is written piece by piece while a tick runs. What it comes to depends on
nothing but the progress before the tick, the events of the tick and its result.

* `Progress.after` is the progress after a tick, and `TickStep.Notes` what a tick has written of it
  so far.
* Each step of a tick keeps to it (`notes_resumeTick`), and so does a whole tick
  (`Trace.progress`).
-/

namespace BridgeWatch

/-! ## What a tick tells -/

namespace TickEvent

/-- The event answers the question where to start the chain. -/
def isStart : TickEvent → Bool
  | answered (.recordedHeight _) _ => true
  | _ => false

/-- The head that an event brings. -/
def head? : TickEvent → Option UInt64
  | answered .head (.ok head) => some head
  | _ => none

/-- The event refuses a range of blocks as too large. -/
def refusesRange : TickEvent → Bool
  | answered (.logs _ _) (.error (.rangeTooLarge ..)) => true
  | _ => false

end TickEvent

open TickEvent

/-- The head that a tick has read, unless it had to ask where to start the chain. -/
def headRead? (es : List TickEvent) : Option UInt64 :=
  if es.any isStart then none else (es.filterMap head?).getLast?

/-- The window of the next scan after a tick. -/
def Observer.windowAfter (o : Observer) (window : UInt64) (es : List TickEvent)
    (result : TickResult) : UInt64 :=
  if result.applied?.isSome then o.maxWindow
  else if es.any refusesRange then halved window
  else window

/-- The progress after a tick. -/
def Progress.after (o : Observer) (p : Progress) (es : List TickEvent) (result : TickResult) :
    Progress :=
  ⟨o.windowAfter p.window es result,
    p.status.after (headRead? es) (o.windowAfter p.window es result) result⟩

/-- The progress in the middle of a tick. -/
def Progress.during (p : Progress) (state : ObserverState) (head : Option UInt64) : Progress :=
  ⟨p.window, { p.status with state := state, lastHead := head.or p.status.lastHead }⟩

/-- A tick that found this watermark can wait here after these events. -/
def Phase.Knows (found : Option UInt64) (es : List TickEvent) : Phase → Prop
  | lookup => found = none ∧ es.filterMap head? = []
  | firstHead => found = none ∧ es.any isStart = true
  | head _ | fetch _ | relay .. => found ≠ none ∧ es.any isStart = false

/-- What a tick has noted after some events that began with this progress and watermark. -/
def TickStep.Notes (o : Observer) (before : Progress) (found : Option UInt64)
    (es : List TickEvent) : TickStep → Prop
  | waiting p v =>
    p.Knows found es ∧ es.any refusesRange = false ∧
      ∃ state, v.progress = before.during state (headRead? es)
  | finished result v =>
    (es.any isStart = true ↔ found = none) ∧ v.progress = before.after o es result

/-! ## One event more -/

/-- An event that does not count changes nothing. -/
theorem any_concat {q : TickEvent → Bool} {es : List TickEvent} {e : TickEvent} {b : Bool}
    (hb : es.any q = b) (he : q e = false) : (es ++ [e]).any q = b := by
  simpa [he] using hb

theorem headRead?_of_start {es : List TickEvent} (h : es.any isStart = true) :
    headRead? es = none := if_pos h

theorem headRead?_of_no_head {es : List TickEvent} (h : es.filterMap head? = []) :
    headRead? es = none := by
  rw [headRead?, h]
  exact ite_self none

/-- An event that brings no head leaves the head that was read. -/
theorem headRead?_concat {es : List TickEvent} {e : TickEvent} (hs : e.isStart = false)
    (hh : e.head? = none) : headRead? (es ++ [e]) = headRead? es := by
  simp [headRead?, hs, hh]

theorem headRead?_concat_head {es : List TickEvent} {head : UInt64}
    (hs : es.any isStart = false) :
    headRead? (es ++ [.answered .head (.ok head)]) = some head := by
  have hh : head? (.answered .head (.ok head)) = some head := rfl
  have he : isStart (.answered .head (.ok head)) = false := rfl
  simp [headRead?, hs, hh, he]

theorem Phase.Knows.overridden {p : Phase} {found : Option UInt64} {es : List TickEvent}
    (h : p.Knows found es) (height : UInt64) : p.Knows found (es ++ [.overridden height]) := by
  cases p with
  | lookup =>
    obtain ⟨hfound, hheads⟩ := h
    refine ⟨hfound, ?_⟩
    rw [List.filterMap_append, hheads]
    rfl
  | firstHead | head | fetch | relay => exact ⟨h.1, any_concat h.2 rfl⟩

namespace Observer

variable {o : Observer} {before : Progress} {found : Option UInt64} {es : List TickEvent}
  {v : View} {state : ObserverState}

/-! ## Steps -/

/-- A tick ends that has set the window of the next scan. -/
theorem notes_finishTick {result : TickResult} (hstart : es.any isStart = true ↔ found = none)
    (hwindow : v.progress.window = o.windowAfter before.window es result)
    (hstatus : v.progress.status = (before.during state (headRead? es)).status) :
    (o.finishTick result v).Notes o before found es := by
  rw [finishTick_eq_finished, hwindow, hstatus]
  exact ⟨hstart, rfl⟩

/-- A tick ends that has not touched the window of the next scan. -/
theorem notes_finishTick_same {result : TickResult} (hstart : es.any isStart = true ↔ found = none)
    (idle : result.applied? = none) (hr : es.any refusesRange = false)
    (hv : v.progress = before.during state (headRead? es)) :
    (o.finishTick result v).Notes o before found es := by
  refine notes_finishTick hstart ?_ (congrArg Progress.status hv)
  rw [hv, windowAfter, idle, hr]
  rfl

section Steps

variable (hfound : found ≠ none) (hstart : es.any isStart = false)
  (hr : es.any refusesRange = false) (w : Window)

include hfound hstart hr

/-- A tick that found a watermark ends without having applied a window. -/
theorem notes_ended {result : TickResult} (idle : result.applied? = none)
    (hv : v.progress = before.during state (headRead? es)) :
    (o.finishTick result v).Notes o before found es :=
  notes_finishTick_same (by simp [hfound, hstart]) idle hr hv

theorem notes_applyWindow (tally : Tally)
    (hv : v.progress = before.during state (headRead? es)) :
    (o.applyWindow w tally v).Notes o before found es := by
  have hstatus := congrArg Progress.status hv
  unfold applyWindow
  split
  · exact notes_ended hfound hstart hr rfl hv
  · exact notes_finishTick (by simp [hfound, hstart]) rfl hstatus

theorem notes_relayEntries (tally : Tally) (entries : List LogEntry)
    (hv : v.progress = before.during state (headRead? es)) :
    (o.relayEntries w tally entries v).Notes o before found es := by
  induction entries generalizing tally v with
  | nil => exact notes_applyWindow hfound hstart hr w tally hv
  | cons e entries ih =>
    rw [relayEntries]
    split
    · exact ih _ hv
    · exact ⟨⟨hfound, hstart⟩, hr, state, hv⟩
    · split
      · exact notes_ended hfound hstart hr rfl hv
      · exact ih _ hv

theorem notes_afterSubmission (tally : Tally) (event : Event) (rest : List LogEntry)
    (answer : Except Fault CorrelationId)
    (hv : v.progress = before.during state (headRead? es)) :
    (o.afterSubmission w tally event rest answer v).Notes o before found es := by
  unfold afterSubmission
  dsimp only
  split
  · exact notes_relayEntries hfound hstart hr w _ _ hv
  · split
    · exact notes_ended hfound hstart hr rfl hv
    · exact notes_relayEntries hfound hstart hr w _ _ hv

theorem notes_afterHead (watermark : UInt64) (answer : Except Fault UInt64)
    (hv : v.progress = before.during state (headRead? es)) :
    (o.afterHead watermark answer v).Notes o before found (es ++ [.answered .head answer]) := by
  have hunasked := any_concat (e := .answered .head answer) hstart rfl
  have hunrefused := any_concat (e := .answered .head answer) hr rfl
  cases answer with
  | error f =>
    rw [← headRead?_concat (e := .answered .head (.error f)) rfl rfl] at hv
    exact notes_ended hfound hunasked hunrefused rfl hv
  | ok head =>
    have hread : Progress.mk v.progress.window { v.progress.status with lastHead := some head } =
        before.during state (headRead? (es ++ [.answered .head (.ok head)])) := by
      rw [hv, headRead?_concat_head hstart]
      rfl
    simp only [afterHead]
    split
    · exact notes_ended hfound hunasked hunrefused rfl hread
    · exact ⟨⟨hfound, hunasked⟩, hunrefused, state, hread⟩

theorem notes_afterFetch (answer : Except Fault (List LogEntry))
    (hv : v.progress = before.during state (headRead? es)) :
    (o.afterFetch w answer v).Notes o before found
      (es ++ [.answered (.logs o.contract w) answer]) := by
  have hunasked := any_concat (e := .answered (.logs o.contract w) answer) hstart rfl
  rw [← headRead?_concat (e := .answered (.logs o.contract w) answer) rfl rfl] at hv
  cases answer with
  | ok entries =>
    have happlying : (v.setState .applying).progress = before.during .applying
        (headRead? (es ++ [.answered (.logs o.contract w) (.ok entries)])) := by
      show Progress.mk v.progress.window { v.progress.status with state := .applying } = _
      rw [hv]
      rfl
    exact notes_relayEntries hfound hunasked (any_concat hr rfl) w .zero entries happlying
  | error f =>
    simp only [afterFetch]
    split
    · rename_i chain first last limit
      have hrefused : (es ++ [TickEvent.answered (.logs o.contract w)
          (.error (.rangeTooLarge chain first last limit))]).any refusesRange = true := by
        rw [List.any_append]
        exact Bool.or_true _
      have hstatus := congrArg Progress.status hv
      have hhalved : halved v.progress.window = halved before.window :=
        congrArg (fun p => halved p.window) hv
      exact notes_finishTick (iff_of_false (Bool.eq_false_iff.1 hunasked) hfound)
        (hhalved.trans (if_pos hrefused).symm) hstatus
    · rename_i hne
      refine notes_ended hfound hunasked (any_concat hr ?_) rfl hv
      cases f with
      | rangeTooLarge chain first last limit => exact absurd rfl (hne chain first last limit)
      | _ => rfl

end Steps

/-- **A step of a tick keeps to what the events tell of it.** -/
theorem notes_resumeTick {p : Phase} (reply : (p.request o).Reply)
    (h : (TickStep.waiting p v).Notes o before found es) :
    (o.resumeTick v p reply).Notes o before found (es ++ [.answered (p.request o) reply]) := by
  obtain ⟨knows, hr, state, hv⟩ := h
  cases p with
  | lookup =>
    obtain ⟨hfound, hheads⟩ := knows
    have hasked :
        (es ++ [TickEvent.answered (.recordedHeight o.chain) reply]).any isStart = true := by
      rw [List.any_append]
      exact Bool.or_true _
    rw [headRead?_of_no_head hheads, ← headRead?_of_start hasked] at hv
    simp only [resumeTick]
    split
    · exact notes_finishTick_same (iff_of_true hasked hfound) rfl (any_concat hr rfl) hv
    · exact ⟨⟨hfound, hasked⟩, any_concat hr rfl, state, hv⟩
  | firstHead =>
    obtain ⟨hfound, hstart⟩ := knows
    have hasked : (es ++ [TickEvent.answered .head reply]).any isStart = true :=
      any_concat hstart rfl
    rw [headRead?_of_start hstart, ← headRead?_of_start hasked] at hv
    simp only [resumeTick]
    split
    · exact notes_finishTick_same (iff_of_true hasked hfound) rfl (any_concat hr rfl) hv
    · exact notes_finishTick_same (iff_of_true hasked hfound) rfl (any_concat hr rfl) hv
  | head watermark => exact notes_afterHead knows.1 knows.2 hr watermark reply hv
  | fetch w => exact notes_afterFetch knows.1 knows.2 hr w reply hv
  | relay w tally event s rest =>
    obtain ⟨hfound, hstart⟩ := knows
    rw [← headRead?_concat (e := .answered (.submit s) reply) rfl rfl] at hv
    exact notes_afterSubmission hfound (any_concat hstart rfl) (any_concat hr rfl) w tally event
      rest reply hv

/-! ## Runs -/

/-- Events tell what a tick notes, from wherever it stands. -/
theorem Trace.notes {s t : TickStep} {fs : List TickEvent} (h : o.Trace s fs t)
    (hs : s.Notes o before found es) : t.Notes o before found (es ++ fs) := by
  induction h generalizing es with
  | refl =>
    rw [List.append_nil]
    exact hs
  | answered reply rest ih =>
    have h := ih (notes_resumeTick reply hs)
    rwa [List.append_assoc] at h
  | @overridden p v fs t height rest ih =>
    obtain ⟨knows, hr, state, hv⟩ := hs
    rw [← headRead?_concat (e := .overridden height) rfl rfl] at hv
    have h := ih ⟨knows.overridden height, any_concat hr rfl, state, hv⟩
    rwa [List.append_assoc] at h

theorem notes_startTick (o : Observer) (v : View) :
    (o.startTick v).Notes o v.progress (v.watermark? o.chain) [] := by
  rw [startTick_eq]
  split
  · rename_i hnone
    exact ⟨⟨hnone, rfl⟩, rfl, .scanning, rfl⟩
  · rename_i m hsome
    exact ⟨⟨by simp [hsome], rfl⟩, rfl, .scanning, rfl⟩

/-- **What a tick does to the progress** is told by its events and its result, whatever is
overridden meanwhile. It asks where to start the chain exactly if it finds no watermark. -/
theorem Trace.progress {result : TickResult} {v' : View}
    (h : o.Trace (o.startTick v) es (.finished result v')) :
    (es.any isStart = true ↔ v.watermark? o.chain = none) ∧
      v'.progress = v.progress.after o es result :=
  h.notes (o.notes_startTick v)

end Observer

end BridgeWatch
