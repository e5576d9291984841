import BridgeWatch.Observer.Run

/-!
# Histories of an observer

What can happen to an observer, whatever the remote ends answer.

* `Observer.Trace s es t`: a tick that stands at `s` comes to stand at `t` through the events `es`,
  each the answer it waited for or an override of the watermark while it waits. A trace that reaches
  `.finished` is a whole tick, one that ends at `.waiting` is a tick that can be dropped there.
* `Observer.History v₀ is v`: from `v₀`, the episodes `is` lead to `v`. An episode is a tick, a
  dropped tick, a restart of the process with nothing but the observer's settings, or an override
  between ticks.

Traces can be computed (`trace_iff_follow`), and they are exactly the runs of the executable tick: a
tick against any remote ends is a trace without overrides (`complete_trace`), and each such trace is
the run against remote ends that give its answers (`exists_remote_of_trace`).
-/

namespace BridgeWatch

/-- What happens to a tick while it waits. -/
inductive TickEvent
  /-- A remote end answers. -/
  | answered (request : Request) (reply : request.Reply)
  /-- The operator overrides the watermark. -/
  | overridden (height : UInt64)

/-- The answer of a remote end that has none to give. -/
def Request.failed : (q : Request) → q.Reply
  | recordedHeight _ | head | logs _ _ | submit _ => .error default

namespace TickEvent

/-- The event is an override of the watermark. -/
def isOverride : TickEvent → Bool
  | answered _ _ => false
  | overridden _ => true

/-- The logs that an event brings. -/
def fetched : TickEvent → List LogEntry
  | answered (.logs _ _) (.ok entries) => entries
  | _ => []

/-- The submission that an event answers. -/
def submission? : TickEvent → Option Submission
  | answered (.submit s) _ => some s
  | _ => none

/-- The submission that an event accepts. -/
def accepted? : TickEvent → Option Submission
  | answered (.submit s) (.ok _) => some s
  | _ => none

/-- The submission that an event refuses. -/
def refused? : TickEvent → Option Submission
  | answered (.submit s) (.error _) => some s
  | _ => none

end TickEvent

/-- No event of a tick is an override. -/
def Undisturbed (es : List TickEvent) : Prop := ∀ e ∈ es, e.isOverride = false

@[simp]
theorem undisturbed_nil : Undisturbed [] := by
  intro e he
  cases he

@[simp]
theorem undisturbed_answered_cons {q : Request} {a : q.Reply} {es : List TickEvent} :
    Undisturbed (.answered q a :: es) ↔ Undisturbed es := by
  simp [Undisturbed, TickEvent.isOverride]

@[simp]
theorem not_undisturbed_overridden_cons {height : UInt64} {es : List TickEvent} :
    ¬Undisturbed (.overridden height :: es) := by
  simp [Undisturbed, TickEvent.isOverride]

/-- The operator overrides the watermark of a chain. -/
def View.override (v : View) (chain : ChainId) (height : UInt64) : View :=
  v.modifyShared fun s => (s.resync chain height).2

namespace Observer

/-- A tick that stands at one step comes, through some events, to stand at another. -/
inductive Trace (o : Observer) : TickStep → List TickEvent → TickStep → Prop
  | refl (s : TickStep) : Trace o s [] s
  | answered {p : Phase} {v : View} {es : List TickEvent} {t : TickStep}
      (reply : (p.request o).Reply) (rest : Trace o (o.resumeTick v p reply) es t) :
      Trace o (.waiting p v) (.answered (p.request o) reply :: es) t
  | overridden {p : Phase} {v : View} {es : List TickEvent} {t : TickStep} (height : UInt64)
      (rest : Trace o (.waiting p (v.override o.chain height)) es t) :
      Trace o (.waiting p v) (.overridden height :: es) t

namespace Trace

variable {o : Observer}

theorem append {s t u : TickStep} {es fs : List TickEvent} (h : o.Trace s es t)
    (h' : o.Trace t fs u) : o.Trace s (es ++ fs) u := by
  induction h with
  | refl => exact h'
  | answered reply _ ih => exact .answered reply (ih h')
  | overridden height _ ih => exact .overridden height (ih h')

/-- A trace can be cut between any two of its events. -/
theorem of_append {s u : TickStep} {es fs : List TickEvent} (h : o.Trace s (es ++ fs) u) :
    ∃ t, o.Trace s es t ∧ o.Trace t fs u := by
  induction es generalizing s with
  | nil => exact ⟨s, .refl s, h⟩
  | cons e es ih =>
    cases h with
    | answered reply rest =>
      obtain ⟨t, h₁, h₂⟩ := ih rest
      exact ⟨t, .answered reply h₁, h₂⟩
    | overridden height rest =>
      obtain ⟨t, h₁, h₂⟩ := ih rest
      exact ⟨t, .overridden height h₁, h₂⟩

/-- Nothing happens to a finished tick. -/
theorem of_finished {result : TickResult} {v : View} {es : List TickEvent} {t : TickStep}
    (h : o.Trace (.finished result v) es t) : es = [] ∧ t = .finished result v := by
  cases h
  exact ⟨rfl, rfl⟩

/-- The next event of a tick that is not overridden is the answer it waits for. -/
theorem of_waiting {p : Phase} {v : View} {es : List TickEvent} {t : TickStep}
    (h : o.Trace (.waiting p v) es t) (hu : Undisturbed es) :
    (es = [] ∧ t = .waiting p v) ∨
      ∃ (reply : (p.request o).Reply) (fs : List TickEvent),
        es = .answered (p.request o) reply :: fs ∧ o.Trace (o.resumeTick v p reply) fs t ∧
          Undisturbed fs := by
  cases h with
  | refl => exact .inl ⟨rfl, rfl⟩
  | answered reply rest => exact .inr ⟨reply, _, rfl, rest, undisturbed_answered_cons.1 hu⟩
  | overridden height rest => exact absurd hu not_undisturbed_overridden_cons

/-- A waiting tick that ends and is not overridden gets the answer it waits for. -/
theorem of_waiting_finished {p : Phase} {v v' : View} {es : List TickEvent} {result : TickResult}
    (h : o.Trace (.waiting p v) es (.finished result v')) (hu : Undisturbed es) :
    ∃ (reply : (p.request o).Reply) (fs : List TickEvent),
      es = .answered (p.request o) reply :: fs ∧
        o.Trace (o.resumeTick v p reply) fs (.finished result v') ∧ Undisturbed fs := by
  rcases h.of_waiting hu with ⟨-, h⟩ | h
  · cases h
  · exact h

end Trace

/-! ## Traces and executed ticks -/

/-- Where a tick stands after some events, if it waits for the first of them and so on. -/
def follow (o : Observer) : TickStep → List TickEvent → Option TickStep
  | s, [] => some s
  | .waiting p v, .answered q a :: es =>
    if h : q = p.request o then o.follow (o.resumeTick v p (h ▸ a)) es else none
  | .waiting p v, .overridden height :: es => o.follow (.waiting p (v.override o.chain height)) es
  | .finished _ _, _ :: _ => none

/-- Traces can be computed. -/
theorem trace_iff_follow {o : Observer} {s t : TickStep} {es : List TickEvent} :
    o.Trace s es t ↔ o.follow s es = some t := by
  constructor
  · intro h
    induction h with
    | refl s => cases s <;> rfl
    | answered reply rest ih =>
      rw [follow, dif_pos rfl]
      exact ih
    | overridden height rest ih => exact ih
  · intro h
    fun_induction follow o s es with
    | case1 s =>
      cases h
      exact .refl _
    | case2 p v es a ih => exact .answered a (ih h)
    | case3 => cases h
    | case4 p v height es ih => exact .overridden height (ih h)
    | case5 => cases h

/-- A tick that is run to its end is a trace without overrides. -/
theorem complete_trace {σ : Type} (o : Observer) (remote : Remote σ) (s : TickStep) (r : σ) :
    ∃ es, Undisturbed es ∧
      o.Trace s es (.finished (o.complete remote s r).1 (o.complete remote s r).2.1) := by
  induction s, r using complete.induct o remote with
  | case1 r result v =>
    rw [complete]
    exact ⟨[], undisturbed_nil, .refl _⟩
  | case2 r p v a r' hr ih =>
    obtain ⟨es, hu, h⟩ := ih
    rw [complete, hr]
    exact ⟨_, undisturbed_answered_cons.2 hu, .answered a h⟩

/-- Remote ends that give the answers of some events, in their order. -/
def replay : Remote (List TickEvent) where
  answer
    | q, .answered q' a :: es => if h : q' = q then (h ▸ a, es) else (q.failed, es)
    | q, es => (q.failed, es)

/-- Each trace of a tick that ends without overrides is the run of the tick against remote ends
that give its answers. -/
theorem exists_remote_of_trace {o : Observer} {s : TickStep} {es : List TickEvent}
    {result : TickResult} {v : View} (h : o.Trace s es (.finished result v))
    (hu : Undisturbed es) : o.complete replay s es = (result, v, []) := by
  generalize ht : TickStep.finished result v = t at h
  induction h with
  | refl =>
    subst ht
    rw [complete]
  | answered reply rest ih =>
    rw [complete]
    simp only [replay, dite_true]
    exact ih (undisturbed_answered_cons.1 hu) ht
  | overridden height rest => exact absurd hu not_undisturbed_overridden_cons

/-! ## Histories -/

end Observer

/-- A stretch of an observer's life. -/
inductive Episode
  /-- A tick from its beginning to its end. -/
  | tick (events : List TickEvent) (result : TickResult)
  /-- A tick that was dropped while it waited. -/
  | dropped (events : List TickEvent)
  /-- The process ended and was started again. -/
  | restart
  /-- The operator overrode the watermark between two ticks. -/
  | overridden (height : UInt64)

namespace Episode

/-- What happened to the tick of an episode. -/
def events : Episode → List TickEvent
  | tick es _ | dropped es => es
  | _ => []

/-- How the tick of an episode ended, if it did. -/
def result? : Episode → Option TickResult
  | tick _ result => some result
  | _ => none

/-- The episode is a tick that ran to its end without an override. -/
def IsQuietTick : Episode → Prop
  | tick es _ => Undisturbed es
  | _ => False

/-- The operator did not override the watermark during an episode. -/
def IsQuiet : Episode → Prop
  | tick es _ | dropped es => Undisturbed es
  | restart => True
  | overridden _ => False

end Episode

/-- What is left of a tick that is dropped while it waits. -/
def View.drop (v : View) : View := v.setState .idle

namespace Observer

/-- What an observer has when its process starts. -/
def initialView (o : Observer) : View := ⟨o.initialProgress, .empty⟩

/-- An observer gets, through some episodes, from one view to another. -/
inductive History (o : Observer) (v₀ : View) : List Episode → View → Prop
  | nil : History o v₀ [] v₀
  | tick {is : List Episode} {v v' : View} {es : List TickEvent} {result : TickResult}
      (before : History o v₀ is v) (run : o.Trace (o.startTick v) es (.finished result v')) :
      History o v₀ (is ++ [.tick es result]) v'
  | dropped {is : List Episode} {v v' : View} {es : List TickEvent} {p : Phase}
      (before : History o v₀ is v) (run : o.Trace (o.startTick v) es (.waiting p v')) :
      History o v₀ (is ++ [.dropped es]) v'.drop
  | restart {is : List Episode} {v : View} (before : History o v₀ is v) :
      History o v₀ (is ++ [.restart]) o.initialView
  | overridden {is : List Episode} {v : View} (before : History o v₀ is v) (height : UInt64) :
      History o v₀ (is ++ [.overridden height]) (v.override o.chain height)

/-- An executed tick prolongs a history. -/
theorem History.executed {o : Observer} {v₀ v : View} {is : List Episode} (h : o.History v₀ is v)
    {σ : Type} (remote : Remote σ) (r : σ) :
    ∃ es, Undisturbed es ∧
      o.History v₀ (is ++ [.tick es (o.tick remote v r).1]) (o.tick remote v r).2.1 := by
  obtain ⟨es, hu, run⟩ := complete_trace o remote (o.startTick v) r
  exact ⟨es, hu, .tick h run⟩

end Observer

end BridgeWatch
