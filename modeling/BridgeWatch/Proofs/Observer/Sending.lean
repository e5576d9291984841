import BridgeWatch.Proofs.Observer.Relaying

/-!
# What a tick sends

However the remote ends answer, whenever the operator overrides the watermark, and wherever the tick
is cut off, a tick sends what the logs that it got decode to, one after the other and each once, up
to some log (`Trace.sent_prefix`).

The invariant is what a step has yet to send (`TickStep.unsent`): nothing before the tick has its
logs, and after that what the logs behind the current one decode to.
-/

namespace BridgeWatch

open TickEvent

namespace Phase

/-- The submission that a phase waits with. -/
def pending : Phase → List Submission
  | relay _ _ _ s _ => [s]
  | lookup | firstHead | head _ | fetch _ => []

/-- The submission that a phase waits with, and those of the entries behind it. -/
def unsent (o : Observer) : Phase → List Submission
  | relay _ _ _ s rest => s :: rest.filterMap o.submission?
  | lookup | firstHead | head _ | fetch _ => []

theorem pending_prefix_unsent (o : Observer) (p : Phase) : p.pending <+: p.unsent o := by
  cases p with
  | relay w tally event s rest => exact List.prefix_append [s] _
  | lookup | firstHead | head | fetch => exact List.prefix_rfl

end Phase

namespace TickStep

/-- The submission that a step has sent and not got an answer to. -/
def pending : TickStep → List Submission
  | waiting p _ => p.pending
  | finished _ _ => []

/-- The submission under way at a step, and those that it has yet to send. -/
def unsent (o : Observer) : TickStep → List Submission
  | waiting p _ => p.unsent o
  | finished _ _ => []

theorem pending_prefix_unsent (o : Observer) (t : TickStep) : t.pending <+: t.unsent o := by
  cases t with
  | waiting p v => exact p.pending_prefix_unsent o
  | finished result v => exact List.prefix_rfl

end TickStep

namespace Observer

variable {o : Observer} {v : View} {w : Window}

theorem unsent_applyWindow (tally : Tally) : (o.applyWindow w tally v).unsent o = [] := by
  unfold applyWindow
  split <;> rfl

/-- The entries of a window are sent from the first one on. -/
theorem unsent_relayEntries (tally : Tally) (entries : List LogEntry) :
    (o.relayEntries w tally entries v).unsent o <+: entries.filterMap o.submission? := by
  induction entries generalizing tally v with
  | nil =>
    rw [relayEntries, unsent_applyWindow]
    exact List.nil_prefix
  | cons e entries ih =>
    rw [relayEntries]
    cases hc : o.classify e with
    | ignored =>
      rw [List.filterMap_cons_none (submission?_of_ignored hc)]
      exact ih _
    | failed f =>
      rw [List.filterMap_cons_none (submission?_of_failed hc)]
      cases hp : o.policy with
      | hold => exact List.nil_prefix
      | skip => exact ih _
    | submitted event s =>
      rw [List.filterMap_cons_some (submission?_of_submitted hc)]
      exact List.prefix_rfl

theorem unsent_afterSubmission (tally : Tally) (event : Event) (rest : List LogEntry)
    (answer : Except Fault CorrelationId) :
    (o.afterSubmission w tally event rest answer v).unsent o <+: rest.filterMap o.submission? := by
  cases answer with
  | ok id => exact unsent_relayEntries _ _
  | error f =>
    rw [afterSubmission_error]
    cases hp : o.policy with
    | hold => exact List.nil_prefix
    | skip => exact unsent_relayEntries _ _

/-- Before the logs of its window are there, a tick has nothing to send. -/
theorem unsent_resumeTick {p : Phase} (hp : 1 < p.stage) (reply : (p.request o).Reply) :
    (o.resumeTick v p reply).unsent o = [] := by
  cases p with
  | lookup =>
    simp only [resumeTick]
    split <;> rfl
  | firstHead =>
    simp only [resumeTick]
    split <;> rfl
  | head watermark =>
    simp only [resumeTick, afterHead]
    split
    · rfl
    · split <;> rfl
  | fetch | relay => exact absurd hp (Nat.not_lt_of_le (by simp [Phase.stage]))

/-- What a step sends up to another is what it has yet to send, and what the logs that it gets in
between decode to. -/
theorem Trace.sent_prefix_unsent {s t : TickStep} {es : List TickEvent} (h : o.Trace s es t) :
    submissions es ++ t.pending <+: s.unsent o ++ (logs es).filterMap o.submission? := by
  induction h with
  | refl s =>
    show s.pending <+: s.unsent o ++ []
    rw [List.append_nil]
    exact s.pending_prefix_unsent o
  | overridden height rest ih => exact ih
  | @answered p u es t reply rest ih =>
    -- from the fetched logs on, no more logs come
    have hlast (hs : (o.resumeTick u p reply).stage = 0) :
        submissions es ++ t.pending <+: (o.resumeTick u p reply).unsent o := by
      rwa [rest.logs_of_stage hs, List.filterMap_nil, List.append_nil] at ih
    cases p with
    | lookup | firstHead | head =>
      rwa [unsent_resumeTick (by simp [Phase.stage])] at ih
    | fetch w =>
      cases reply with
      | error f =>
        have hend : (o.resumeTick u (.fetch w) (.error f)).unsent o = [] := by
          simp only [resumeTick, afterFetch]
          split <;> rfl
        rwa [hend] at ih
      | ok entries =>
        have hstage := (o.relayEntries_measure w .zero entries (u.setState .applying)).1
        show submissions es ++ t.pending <+: (entries ++ logs es).filterMap o.submission?
        rw [rest.logs_of_stage hstage, List.append_nil]
        exact (hlast hstage).trans (unsent_relayEntries _ _)
    | relay w tally event s rest' =>
      have hstage := (o.afterSubmission_measure w tally event rest' reply u).1
      have hsent : submissions es ++ t.pending <+: rest'.filterMap o.submission? :=
        (hlast hstage).trans (unsent_afterSubmission _ _ _ _)
      have hcons : s :: (submissions es ++ t.pending) <+: s :: rest'.filterMap o.submission? :=
        List.prefix_cons_inj s |>.2 hsent
      exact hcons.trans (List.prefix_append _ _)

/-- **What a tick has sent** at any point is what the logs that it got decode to, from the first
one on, in their order. -/
theorem Trace.sent_prefix {t : TickStep} {es : List TickEvent}
    (h : o.Trace (o.startTick v) es t) :
    submissions es ++ t.pending <+: (logs es).filterMap o.submission? := by
  have hstart : (o.startTick v).unsent o = [] := by
    rw [startTick_eq]
    split <;> rfl
  have hsent := h.sent_prefix_unsent
  rwa [hstart, List.nil_append] at hsent

end Observer

end BridgeWatch
