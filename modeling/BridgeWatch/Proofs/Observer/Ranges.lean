import BridgeWatch.Proofs.Rpc.Connector
import BridgeWatch.Proofs.Settings.Construction

/-!
# Observers and connectors agree on ranges

Observer and connector take the limit of blocks from the same settings, each for itself, and a tick
that fetches logs has to pass the connector's guard.

* `Phase.Plans` is the invariant of a tick: the window that it fetches is the one past the watermark
  it has read, with the window of the next scan as its limit (`Trace.plans`). Overrides do not
  matter for it.
* `fault_cases` says where the fault of a tick comes from: it is the answer to a call that reads the
  head or fetches logs, or the watermark has been moved past the window by an override.
* `Observer.ranges_agree`: with a connector of the same settings, every window that is fetched is
  admitted, and a tick that is not interfered with fails with faults that a later tick may be
  without.
-/

namespace BridgeWatch

/-- What a tick has planned, by the watermark that it has read and the window of the next scan. -/
def Phase.Plans (read : Option UInt64) (limit : UInt64) : Phase → Prop
  | head watermark => read = some watermark
  | fetch w => ∃ watermark head, read = some watermark ∧ Window.next? watermark head limit = some w
  | _ => True

/-- A waiting tick that has kept to its plan. -/
def TickStep.Plans (read : Option UInt64) (limit : UInt64) : TickStep → Prop
  | waiting p v => p.Plans read limit ∧ v.progress.window = limit
  | finished _ _ => True

/-- The window that a phase deals with. -/
def Phase.window? : Phase → Option Window
  | fetch w | relay w _ _ _ _ => some w
  | _ => none

theorem Phase.Fits.follows {p : Phase} {before : Option UInt64} (h : p.Fits before) {w : Window}
    (hw : p.window? = some w) : ∃ m, before = some m ∧ w.Follows m := by
  cases p with
  | lookup => cases hw
  | firstHead => cases hw
  | head m => cases hw
  | fetch w' =>
    cases hw
    exact h
  | relay w' tally event s rest =>
    cases hw
    exact h

namespace Observer

variable {o : Observer} {read : Option UInt64} {limit : UInt64} {v : View}

/-! ## The planned window -/

/-- A step that only relays entries has nothing left to plan. -/
theorem plans_of_stage {t : TickStep} (hstage : t.stage = 0) (hwindow : o.Resizes limit t) :
    t.Plans read limit := by
  cases hwindow with
  | @waiting p v same =>
    refine ⟨?_, same⟩
    cases p with
    | relay w tally event s rest => trivial
    | lookup => cases hstage
    | firstHead => cases hstage
    | head m => cases hstage
    | fetch w => cases hstage
  | applied largest => trivial
  | ended idle less => trivial

theorem plans_startTick (o : Observer) (v : View) :
    (o.startTick v).Plans (v.watermark? o.chain) v.progress.window := by
  rw [startTick_eq]
  cases v.watermark? o.chain with
  | none => exact ⟨trivial, rfl⟩
  | some m => exact ⟨rfl, rfl⟩

/-- A step of a tick keeps to the plan. -/
theorem plans_resumeTick {p : Phase} (hp : p.Plans read limit) (hv : v.progress.window = limit)
    (reply : (p.request o).Reply) : (o.resumeTick v p reply).Plans read limit := by
  have hwindow := resizes_resumeTick p reply hv
  cases p with
  | lookup =>
    simp only [resumeTick] at hwindow ⊢
    split
    · trivial
    · exact ⟨trivial, hv⟩
  | firstHead =>
    simp only [resumeTick]
    split <;> trivial
  | head m =>
    simp only [resumeTick, afterHead]
    split
    · trivial
    · split
      · trivial
      · rename_i head _ w hnext
        exact ⟨⟨m, head, hp, hv ▸ hnext⟩, hv⟩
  | fetch w =>
    simp only [resumeTick, afterFetch] at hwindow ⊢
    cases reply with
    | ok entries => exact plans_of_stage (o.relayEntries_measure ..).1 hwindow
    | error f => trivial
  | relay w tally event s rest =>
    exact plans_of_stage (o.afterSubmission_measure ..).1 hwindow

theorem Trace.plans {s t : TickStep} {es : List TickEvent} (h : o.Trace s es t)
    (hs : s.Plans read limit) : t.Plans read limit := by
  induction h with
  | refl => exact hs
  | answered reply rest ih => exact ih (plans_resumeTick hs.1 hs.2 reply)
  | overridden height rest ih => exact ih hs

/-! ## Where faults come from -/

/-- The last event of a finished tick is an answer. -/
theorem Trace.last_answer {p : Phase} {es : List TickEvent} {result : TickResult} {v' : View}
    (h : o.Trace (.waiting p v) es (.finished result v')) :
    ∃ (ds : List TickEvent) (q : Phase) (u : View) (reply : (q.request o).Reply),
      es = ds ++ [.answered (q.request o) reply] ∧ o.Trace (.waiting p v) ds (.waiting q u) ∧
        o.resumeTick u q reply = .finished result v' := by
  generalize hs : TickStep.waiting p v = s at h
  generalize ht : TickStep.finished result v' = t at h
  induction h generalizing p v with
  | refl =>
    rw [← ht] at hs
    cases hs
  | @answered q u es t reply rest ih =>
    subst ht
    cases hr : o.resumeTick u q reply with
    | finished result' u' =>
      rw [hr] at rest
      obtain ⟨rfl, heq⟩ := rest.of_finished
      exact ⟨[], q, u, reply, rfl, .refl _, hr.trans heq.symm⟩
    | waiting q' u' =>
      obtain ⟨ds, q'', u'', reply', rfl, hds, hlast⟩ := ih hr.symm rfl
      exact ⟨_ :: ds, q'', u'', reply', rfl, .answered reply (hr ▸ hds), hlast⟩
  | @overridden q u es t height rest ih =>
    obtain ⟨ds, q', u', reply, rfl, hds, hlast⟩ := ih rfl ht
    exact ⟨_ :: ds, q', u', reply, rfl, .overridden height hds, hlast⟩

/-- The watermark has been moved past a window, which is therefore not applied. -/
def Overtaken (o : Observer) (w : Window) (v : View) (f : Fault) : Prop :=
  ∃ current, v.watermark? o.chain = some current ∧ w.last < current ∧
    f = .regression o.chain current w.last

theorem overtaken_of_applyWindow {w : Window} {tally : Tally} {f : Fault} {v' : View}
    (h : o.applyWindow w tally v = .finished (.error f) v') : o.Overtaken w v f := by
  unfold applyWindow at h
  rcases v.shared.refused_or_advanced o.chain w.last with ⟨current, hm, hlt, heq⟩ | ⟨-, heq⟩
  · rw [heq] at h
    obtain rfl : .regression o.chain current w.last = f := by
      cases h
      rfl
    exact ⟨current, hm, hlt, rfl⟩
  · rw [heq] at h
    cases h

theorem overtaken_of_relayEntries {w : Window} {tally : Tally} {entries : List LogEntry}
    {f : Fault} {v' : View} (h : o.relayEntries w tally entries v = .finished (.error f) v') :
    o.Overtaken w v f := by
  induction entries generalizing tally v with
  | nil => exact overtaken_of_applyWindow h
  | cons e entries ih =>
    rw [relayEntries] at h
    split at h
    · exact ih h
    · cases h
    · split at h
      · cases h
      · exact ih (v := o.countSkipped _ v) h

theorem overtaken_of_afterSubmission {w : Window} {tally : Tally} {event : Event}
    {rest : List LogEntry} {answer : Except Fault CorrelationId} {f : Fault} {v' : View}
    (h : o.afterSubmission w tally event rest answer v = .finished (.error f) v') :
    o.Overtaken w v f := by
  have hsame : ∀ w f, o.Overtaken w ⟨v.progress, (v.shared.settle event answer).2⟩ f →
      o.Overtaken w v f := by
    rintro w f ⟨current, hm, hlt, hf⟩
    refine ⟨current, ?_, hlt, hf⟩
    rw [← hm]
    exact congrArg (·.get? o.chain) (Shared.watermarks_settle v.shared event answer).symm
  unfold afterSubmission at h
  dsimp only at h
  split at h
  · exact hsame w f (overtaken_of_relayEntries h)
  · split at h
    · cases h
    · exact hsame w f (overtaken_of_relayEntries (v := o.countSkipped _ _) h)

/-- **Where the fault of a tick comes from**: from the answer to a call that reads the head or
fetches logs, unless the window was overtaken. -/
theorem fault_cases {p : Phase} {reply : (p.request o).Reply} {f : Fault} {v' : View}
    (h : o.resumeTick v p reply = .finished (.error f) v') :
    TickEvent.answered (p.request o) reply = .answered .head (.error f) ∨
      (∃ w, p = .fetch w ∧
        TickEvent.answered (p.request o) reply = .answered (.logs o.contract w) (.error f)) ∨
      ∃ w, p.window? = some w ∧ o.Overtaken w v f := by
  cases p with
  | lookup =>
    simp only [resumeTick] at h
    split at h
    · cases h
    · cases h
  | firstHead =>
    cases reply with
    | ok height => cases h
    | error cause =>
      cases h
      exact .inl rfl
  | head m =>
    cases reply with
    | ok height =>
      simp only [resumeTick, afterHead] at h
      split at h
      · cases h
      · cases h
    | error cause =>
      cases h
      exact .inl rfl
  | fetch w =>
    cases reply with
    | ok entries =>
      exact .inr (.inr ⟨w, rfl, overtaken_of_relayEntries (v := v.setState .applying) h⟩)
    | error cause =>
      have : cause = f := by
        cases h
        rfl
      exact .inr (.inl ⟨w, rfl, by rw [← this]; rfl⟩)
  | relay w tally event s rest => exact .inr (.inr ⟨w, rfl, overtaken_of_afterSubmission h⟩)

/-- A tick that is left alone is not overtaken. -/
theorem Trace.not_overtaken {es : List TickEvent} {p : Phase} {u : View} {w : Window} {f : Fault}
    (h : o.Trace (o.startTick v) es (.waiting p u)) (hu : Undisturbed es)
    (hw : p.window? = some w) : ¬o.Overtaken w u f := by
  rintro ⟨current, hm, hlt, -⟩
  obtain ⟨hwatermark, hfits⟩ := h.fits hu (o.fits_startTick v)
  obtain ⟨m, hbefore, hfollows⟩ := hfits.follows hw
  rw [hwatermark, hbefore] at hm
  cases hm
  exact UInt64.lt_asymm hlt hfollows.lt_last

/-! ## Ranges -/

/-- A tick has asked a remote end for something, and may still be waiting for the answer. -/
def Asked (o : Observer) (es : List TickEvent) (t : TickStep) (q : Request) : Prop :=
  (∃ reply, .answered q reply ∈ es) ∨ ∃ p v, t = .waiting p v ∧ p.request o = q

/-- What a tick asks for, it waits for at some time. -/
theorem Trace.exists_waiting {s t : TickStep} {es : List TickEvent} {q : Request}
    (h : o.Trace s es t) (hq : o.Asked es t q) :
    ∃ ds p u, o.Trace s ds (.waiting p u) ∧ p.request o = q := by
  rcases hq with ⟨reply, hmem⟩ | ⟨p, u, rfl, hp⟩
  · obtain ⟨ds, fs, rfl⟩ := List.append_of_mem hmem
    obtain ⟨u, hds, hrest⟩ := h.of_append
    cases hrest with
    | @answered p u' _ _ _ rest => exact ⟨ds, p, u', hds, rfl⟩
  · exact ⟨es, p, u, h, hp⟩

end Observer

/-- An answer is the connector's, or else the ledger's. -/
def TickEvent.From (c : Rpc.Connector) (deadline : Nat) : TickEvent → Prop
  | answered q reply => ∃ x, c.Gives deadline x q reply
  | overridden _ => True

/-- The faults with which a tick over a connector may end. -/
inductive Rpc.Connector.Explains (c : Rpc.Connector) (deadline : Nat) (es : List TickEvent) :
    Fault → Prop
  /-- The chain's endpoint could not be reached or answered with an error. -/
  | connection (message : String) : Explains c deadline es (.connection c.chain message)
  /-- The node has refused the range: there is no other way to this answer. -/
  | rejected {contract : Address} {w : Window}
    (answer : .answered (.logs contract w)
      (.error (.rangeTooLarge c.chain w.first w.last c.maxRange)) ∈ es)
    (node : ∀ x, c.Gives deadline x (.logs contract w)
      (.error (.rangeTooLarge c.chain w.first w.last c.maxRange)) → Rpc.Rejects x) :
    Explains c deadline es (.rangeTooLarge c.chain w.first w.last c.maxRange)
  /-- An override has moved the watermark past the window. -/
  | overtaken (current requested : UInt64) (disturbed : ¬Undisturbed es) :
    Explains c deadline es (.regression c.chain current requested)

/-- Logs that the connector does not give explain the fault of the tick. -/
theorem Rpc.Connector.explains_of_gives_logs {c : Rpc.Connector} {deadline : Nat}
    {x : Http.Exchange} {es : List TickEvent} {contract : Address} {w : Window} {f : Fault}
    (hw : c.guardWindow w = .ok ()) (hmem : .answered (.logs contract w) (.error f) ∈ es)
    (hx : c.Gives deadline x (.logs contract w) (.error f)) : c.Explains deadline es f := by
  rcases connection_or_rejects_of_gives_logs hw hx with ⟨message, rfl⟩ | ⟨rfl, -⟩
  · exact .connection message
  · refine .rejected hmem ?_
    intro y hy
    rcases connection_or_rejects_of_gives_logs hw hy with ⟨message, hne⟩ | ⟨-, hrejects⟩
    · cases hne
    · exact hrejects

/-- Without an override, a fault is a failed connection or a range that was too large. -/
theorem Rpc.Connector.Explains.of_undisturbed {c : Rpc.Connector} {deadline : Nat}
    {es : List TickEvent} {f : Fault} (h : c.Explains deadline es f) (hu : Undisturbed es) :
    ((∃ message, f = .connection c.chain message) ∨
      ∃ first last limit, f = .rangeTooLarge c.chain first last limit) ∧
      f.isRetryable = true := by
  cases h with
  | connection message => exact ⟨.inl ⟨message, rfl⟩, rfl⟩
  | rejected answer node => exact ⟨.inr ⟨_, _, _, rfl⟩, rfl⟩
  | overtaken current requested disturbed => exact absurd hu disturbed

namespace Observer

variable {o : Observer} {c : Rpc.Connector} {v : View} {es : List TickEvent}

/-- The window that a tick fetches is the one past the watermark that it found, and the connector
admits it. -/
theorem Trace.admits (hmax : o.maxWindow = c.maxRange) (hv : o.Scans v) {p : Phase} {u : View}
    (h : o.Trace (o.startTick v) es (.waiting p u)) {contract : Address} {w : Window}
    (hp : p.request o = .logs contract w) :
    p = .fetch w ∧ contract = o.contract ∧ c.Admits w ∧
      ∃ watermark, v.watermark? o.chain = some watermark ∧ w.Follows watermark := by
  cases p with
  | fetch w' =>
    cases hp
    obtain ⟨⟨watermark, head, hread, hnext⟩, -⟩ := h.plans (o.plans_startTick v)
    exact ⟨rfl, rfl, Rpc.Connector.admits_of_next? hv.1 (hmax ▸ hv.2) hnext, watermark, hread,
      (Window.follows_next? hnext).1⟩
  | lookup => cases hp
  | firstHead => cases hp
  | head watermark => cases hp
  | relay w' tally event s rest => cases hp

/-- The fault of a tick over a connector is explained. -/
theorem Trace.explains (hchain : o.chain = c.chain) (hmax : o.maxWindow = c.maxRange)
    (hv : o.Scans v) {f : Fault} {v' : View}
    (h : o.Trace (o.startTick v) es (.finished (.error f) v')) {deadline : Nat}
    (hes : ∀ e ∈ es, e.From c deadline) : c.Explains deadline es f := by
  obtain ⟨p, u, hstart⟩ : ∃ p u, o.startTick v = .waiting p u := by
    rw [startTick_eq]
    split <;> exact ⟨_, _, rfl⟩
  have h' := h
  rw [hstart] at h'
  obtain ⟨ds, q, u', reply, rfl, hds, hlast⟩ := h'.last_answer
  rw [← hstart] at hds
  have hmem : .answered (q.request o) reply ∈ ds ++ [.answered (q.request o) reply] :=
    List.mem_append_right _ (List.mem_singleton_self _)
  have hfrom := hes _ hmem
  rcases fault_cases hlast with heq | ⟨w, rfl, heq⟩ | ⟨w, hw, hovertaken⟩
  · rw [heq] at hfrom
    obtain ⟨x, hx⟩ := hfrom
    obtain ⟨message, rfl⟩ := Rpc.Connector.connection_of_gives_head hx
    exact .connection message
  · obtain ⟨-, -, hadmits, -⟩ := hds.admits hmax hv rfl
    rw [heq] at hfrom hmem
    obtain ⟨x, hx⟩ := hfrom
    rw [heq]
    exact Rpc.Connector.explains_of_gives_logs hadmits.passes hmem hx
  · obtain ⟨current, -, -, rfl⟩ := id hovertaken
    rw [hchain]
    refine .overtaken current w.last ?_
    intro hu
    exact hds.not_overtaken (fun e he => hu e (List.mem_append_left _ he)) hw hovertaken

/-- **Observers and connectors agree on ranges.** Of the same settings, whatever the heights and
whatever has happened before: each window that a tick fetches starts right behind the watermark that
the tick found and is admitted by the connector, with every number in its 64 bits; and if the tick
fails, an endpoint could not be reached or a node has refused the range, which a later tick may be
without, unless an override has moved the watermark past the window. -/
theorem ranges_agree {chain : ChainId} {s : ChainSettings} {unhealthyAfter : UInt32}
    (hc : Rpc.Connector.ofSettings chain s = .ok c)
    (ho : Observer.ofSettings chain s unhealthyAfter = .ok o)
    {shared : Shared} {is : List Episode} (reached : o.History ⟨o.initialProgress, shared⟩ is v)
    {t : TickStep} (run : o.Trace (o.startTick v) es t) :
    (∀ contract w, o.Asked es t (.logs contract w) → contract = o.contract ∧ c.Admits w ∧
      ∃ watermark, v.watermark? chain = some watermark ∧
        w.first.toNat = watermark.toNat + 1) ∧
    ∀ deadline f v', t = .finished (.error f) v' → (∀ e ∈ es, e.From c deadline) →
      c.Explains deadline es f ∧ (∀ first last, f ≠ .invalidRange first last) ∧
        (Undisturbed es → ((∃ message, f = .connection chain message) ∨
          ∃ first last limit, f = .rangeTooLarge chain first last limit) ∧
          f.isRetryable = true) := by
  obtain ⟨url, -, rfl⟩ := Rpc.Connector.ofSettings_eq_ok_iff.1 hc
  obtain ⟨schema, contract, -, -, rfl⟩ := ofSettings_eq_ok_iff.1 ho
  have hone := one_le_max_one s.maxWindow
  have hv := reached.scans hone ⟨hone, UInt64.le_refl _⟩
  refine ⟨?_, ?_⟩
  · intro contract' w hasked
    obtain ⟨ds, p, u, hds, hp⟩ := run.exists_waiting hasked
    obtain ⟨-, hcontract, hadmits, m, hm, hfollows⟩ := hds.admits
      (c := ⟨chain, url, max s.maxWindow 1⟩) rfl hv hp
    exact ⟨hcontract, hadmits, m, hm, hfollows.first_eq⟩
  · rintro deadline f v' rfl hes
    have hexplains := run.explains rfl rfl hv hes
    refine ⟨hexplains, ?_, hexplains.of_undisturbed⟩
    rintro first last rfl
    cases hexplains

/-- Standard settings with a limit of ten blocks, a watermark of 100 and a head of 137: the tick
fetches the blocks 101 to 110. -/
theorem ranges_agree_sampleFetch : ∃ c o v,
    Rpc.Connector.ofSettings ⟨"goerli"⟩ (.limited 10) = .ok c ∧
      Observer.ofSettings ⟨"goerli"⟩ (.limited 10) 5 = .ok o ∧
      o.Trace (o.startTick ⟨o.initialProgress, Shared.empty.setWatermark ⟨"goerli"⟩ 100⟩)
        [.answered .head (.ok 137)] (.waiting (.fetch ⟨101, 110⟩) v) ∧
      c.Admits ⟨101, 110⟩ := by
  obtain ⟨c, o, hc, ho⟩ := ChainSettings.exists_connected ⟨"goerli"⟩ 10 5
  obtain ⟨schema, contract, -, -, heq⟩ := ofSettings_eq_ok_iff.1 ho
  obtain ⟨v, run⟩ : ∃ v,
      o.Trace (o.startTick ⟨o.initialProgress, Shared.empty.setWatermark ⟨"goerli"⟩ 100⟩)
        [.answered .head (.ok 137)] (.waiting (.fetch ⟨101, 110⟩) v) := by
    rw [heq]
    exact ⟨_, trace_iff_follow.2 rfl⟩
  have hasked := (ranges_agree hc ho .nil run).1 o.contract ⟨101, 110⟩ (.inr ⟨_, _, rfl, rfl⟩)
  exact ⟨c, o, v, hc, ho, run, hasked.2.1⟩

end Observer

end BridgeWatch
