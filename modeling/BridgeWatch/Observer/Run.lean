import BridgeWatch.Observer.Tick

/-!
# Whole ticks

`Observer.tick` runs a tick to its end against remote ends that answer at once. The remote ends are
any value with a function that answers requests, so they may change with each answer; nothing else
is assumed of them.

That a tick ends rests on a measure of its phases (`Phase.stage`, `Phase.left`): each answer leads
to a later stage, or within the last one to fewer entries.
-/

namespace BridgeWatch

/-- Remote ends that answer at once. -/
structure Remote (σ : Type) where
  answer : (q : Request) → σ → q.Reply × σ

namespace Phase

/-- How many stages a tick has still to pass. -/
def stage : Phase → Nat
  | lookup => 4
  | firstHead => 3
  | head _ => 2
  | fetch _ => 1
  | relay .. => 0

/-- How many entries a tick has still to deal with, the one in flight included. -/
def left : Phase → Nat
  | relay _ _ _ _ rest => rest.length + 1
  | _ => 0

end Phase

namespace TickStep

/-- How many stages a step has still to pass. -/
def stage : TickStep → Nat
  | waiting p _ => p.stage
  | finished _ _ => 0

/-- How many entries a step has still to deal with. -/
def left : TickStep → Nat
  | waiting p _ => p.left
  | finished _ _ => 0

end TickStep

namespace Observer

theorem applyWindow_finished (o : Observer) (w : Window) (t : Tally) (v : View) :
    (o.applyWindow w t v).stage = 0 ∧ (o.applyWindow w t v).left = 0 := by
  unfold applyWindow
  split <;> exact ⟨rfl, rfl⟩

theorem relayEntries_measure (o : Observer) (w : Window) (t : Tally) (es : List LogEntry)
    (v : View) :
    (o.relayEntries w t es v).stage = 0 ∧ (o.relayEntries w t es v).left ≤ es.length := by
  induction es generalizing t v with
  | nil =>
    have h := applyWindow_finished o w t v
    exact ⟨h.1, by simp [relayEntries, h.2]⟩
  | cons e es ih =>
    have skip : ∀ t v, (o.relayEntries w t es v).stage = 0 ∧
        (o.relayEntries w t es v).left ≤ (e :: es).length := fun t v =>
      ⟨(ih t v).1, Nat.le_trans (ih t v).2 (by simp)⟩
    rw [relayEntries]
    split
    · exact skip _ _
    · exact ⟨rfl, Nat.le_refl _⟩
    · split
      · exact ⟨rfl, Nat.zero_le _⟩
      · exact skip _ _

theorem afterSubmission_measure (o : Observer) (w : Window) (t : Tally) (e : Event)
    (es : List LogEntry) (a : Except Fault CorrelationId) (v : View) :
    (o.afterSubmission w t e es a v).stage = 0 ∧
      (o.afterSubmission w t e es a v).left ≤ es.length := by
  unfold afterSubmission
  dsimp only
  split
  · exact relayEntries_measure ..
  · split
    · exact ⟨rfl, Nat.zero_le _⟩
    · exact relayEntries_measure ..

/-- Each answer brings a tick closer to its end. -/
theorem resumeTick_measure (o : Observer) (v : View) (p : Phase) (a : (p.request o).Reply) :
    Prod.Lex (· < ·) (· < ·) ((o.resumeTick v p a).stage, (o.resumeTick v p a).left)
      (p.stage, p.left) := by
  rw [Prod.lex_def]
  cases p with
  | lookup =>
    left
    simp only [resumeTick]
    split <;> simp [initializeAt, finishTick, TickStep.stage, Phase.stage]
  | firstHead =>
    left
    simp only [resumeTick]
    split <;> simp [initializeAt, finishTick, TickStep.stage, Phase.stage]
  | head w =>
    left
    simp only [resumeTick, afterHead]
    split
    · simp [finishTick, TickStep.stage, Phase.stage]
    · split <;> simp [finishTick, TickStep.stage, Phase.stage]
  | fetch w =>
    left
    simp only [resumeTick, afterFetch]
    split
    · rw [(relayEntries_measure ..).1]
      simp [Phase.stage]
    · simp [finishTick, TickStep.stage, Phase.stage]
  | relay w t e s rest =>
    right
    have h := afterSubmission_measure o w t e rest a v
    exact ⟨h.1, Nat.lt_succ_of_le h.2⟩

/-- Runs a tick from a step to its end. -/
def complete {σ : Type} (o : Observer) (remote : Remote σ) (step : TickStep) (r : σ) :
    TickResult × View × σ :=
  match step with
  | .finished result v => (result, v, r)
  | .waiting p v =>
    let (a, r) := remote.answer (p.request o) r
    complete o remote (o.resumeTick v p a) r
termination_by (step.stage, step.left)
decreasing_by exact resumeTick_measure ..

/-- Runs a whole tick. -/
def tick {σ : Type} (o : Observer) (remote : Remote σ) (v : View) (r : σ) :
    TickResult × View × σ :=
  o.complete remote (o.startTick v) r

end Observer

end BridgeWatch
