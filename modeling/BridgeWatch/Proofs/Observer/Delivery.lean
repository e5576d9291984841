import BridgeWatch.Proofs.Log.Decoding
import BridgeWatch.Proofs.Observer.Relaying
import Mathlib.Data.List.Perm.Subperm

/-!
# The hold policy loses nothing

Under the hold policy a history may drop ticks wherever they wait and restart the process, as long
as nobody overrides the watermark and the ledger knows, after a restart, no more than what was
reached before (`Recorded`). Then the logs behind the first watermark up to the current one decode,
if their topics are in the schema, and the ledger accepted their submissions, each at least as often
as there are logs with this submission (`AcceptsAll`, `History.hold_loses_nothing`).

The invariant is `Kept`: the current watermark is not past what was ever written, and whatever was
written, the logs up to there are accepted. A tick extends it because it writes only at its end,
when every log of its window was dealt with in this very tick (`Trace.relay_hold`). Logs may share a
submission, so a log may not lean on an acceptance that another log needs: those of a window that
were reached before keep their acceptances, and only those behind them take the ones of this tick.
-/

namespace BridgeWatch

open TickEvent Episode

/-- The topic of a log is in the schema of an observer. -/
def Observer.Knows (o : Observer) (e : LogEntry) : Prop :=
  ∃ topic sig, e.topic = some topic ∧ o.schema.lookup topic = some sig

/-- Once the chain has been initialized, the ledger answers each lookup, with a height that is not
zero and not past a watermark reached before. -/
def Recorded (is : List Episode) : Prop :=
  ∀ before i after, is = before ++ i :: after → heights before ≠ [] →
    ∀ chain answer, .answered (.recordedHeight chain) answer ∈ i.events →
      ∃ height, answer = .ok height ∧ 0 < height ∧ ∃ reached ∈ heights before, height ≤ reached

theorem recorded_nil : Recorded [] := by
  intro before i after h
  cases before <;> cases h

/-- A lookup of one more episode after the chain has been initialized. -/
theorem recorded_concat {is : List Episode} {i : Episode} : Recorded (is ++ [i]) ↔
    Recorded is ∧ (heights is ≠ [] →
      ∀ chain answer, .answered (.recordedHeight chain) answer ∈ i.events →
        ∃ height, answer = .ok height ∧ 0 < height ∧ ∃ reached ∈ heights is, height ≤ reached) := by
  constructor
  · intro h
    refine ⟨?_, h is i [] rfl⟩
    intro before j after his
    refine h before j (after ++ [i]) ?_
    rw [his, List.append_assoc, List.cons_append]
  · rintro ⟨h, hi⟩ before j after his
    rcases List.eq_nil_or_concat after with rfl | ⟨rest, k, rfl⟩
    · obtain ⟨rfl, hj⟩ := List.append_inj' his rfl
      cases hj
      exact hi
    · rw [List.concat_eq_append, ← List.cons_append, ← List.append_assoc] at his
      obtain ⟨rfl, -⟩ := List.append_inj' his rfl
      exact h before j rest rfl

namespace Observer

variable {o : Observer}

/-! ## Logs that are ignored or fail -/

/-- A log whose topic is in the schema is not ignored. -/
theorem Knows.classify_ne_ignored {e : LogEntry} (h : o.Knows e) : o.classify e ≠ .ignored := by
  obtain ⟨topic, sig, ht, hs⟩ := h
  intro hc
  unfold classify at hc
  rw [decodeEntry_of_lookup ht hs] at hc
  split at hc
  · rename_i t heq
    exact decodeAs_ne_unknownSignature _ _ _ _ heq
  · cases hc
  · split at hc <;> cases hc

/-- A log whose topic is in the schema and that does not decode fails. -/
theorem Knows.classify_of_error {e : LogEntry} (h : o.Knows e) {f : Fault}
    (hd : decodeEntry o.chain o.schema e = .error f) : o.classify e = .failed f := by
  have hi := h.classify_ne_ignored
  unfold classify at hi ⊢
  rw [hd] at hi ⊢
  split
  · rename_i heq
    rw [heq] at hi
    exact absurd rfl hi
  · rename_i heq
    cases heq
    rfl
  · rename_i heq
    cases heq

/-! ## Ticks under the hold policy -/

/-- **A tick under the hold policy does not move the watermark past a log that fails** to decode or
that the ledger refuses in this tick. -/
theorem Trace.stays_of_failure (ho : o.policy = .hold) {v v' : View} {es : List TickEvent}
    {result : TickResult} (h : o.Trace (o.startTick v) es (.finished result v'))
    (hu : Undisturbed es)
    (failed : (∃ e ∈ logs es, o.Knows e ∧ ∃ f, decodeEntry o.chain o.schema e = .error f) ∨
      refusals es ≠ []) : v'.watermark? o.chain = v.watermark? o.chain := by
  obtain ⟨hfits, hw⟩ := h.of_startTick hu
  have hw : v'.watermark? o.chain = result.written?.or (v.watermark? o.chain) := hw
  have hfits : result.Fits (v.watermark? o.chain) := hfits
  rcases h.tick_cases hu with
      ⟨-, hr, hl, -⟩ | ⟨head, w, entries, fs, u, rfl, hl, ⟨m, hm, -⟩, huv, run, hfs⟩
  · rw [hl, hr] at failed
    rcases failed with ⟨e, he, -⟩ | hne
    · cases he
    · exact absurd rfl hne
  · rw [hm] at huv
    cases result with
    | error f => exact hw
    | ok outcome =>
      cases outcome with
      | initialized height => exact absurd (huv.trans hfits) (by simp)
      | noNewBlocks head => exact hw
      | held w' forwarded error => exact hw
      | applied w' tally =>
        obtain ⟨-, hr, -, hall⟩ := run.relay_hold ho hfs
        rcases failed with ⟨e, he, hk, f, hd⟩ | hne
        · have hc := hk.classify_of_error hd
          rw [hl] at he
          rcases hall e he with hi | ⟨event, s, hs⟩
          · exact absurd hi hk.classify_ne_ignored
          · rw [hc] at hs
            cases hs
        · exact absurd hr hne

/-- Logs whose topics are in the schema decode, and the submissions of all logs are accepted, each
at least as often as there are logs with this submission. -/
structure AcceptsAll (o : Observer) (accepted : List Submission) (entries : List LogEntry) :
    Prop where
  decodes : ∀ e ∈ entries, o.Knows e → ∃ event s, decodeEntry o.chain o.schema e = .ok event ∧
    RelayCall.forward.submission event = .ok s ∧ o.submission? e = some s
  accepted : (entries.filterMap o.submission?).Subperm accepted

namespace AcceptsAll

variable {accepted accepted' : List Submission} {entries entries' : List LogEntry}

theorem nil (o : Observer) (accepted : List Submission) : o.AcceptsAll accepted [] :=
  ⟨fun _ he => (List.not_mem_nil he).elim, List.nil_subperm⟩

theorem mono (h : o.AcceptsAll accepted entries) (hs : accepted.Sublist accepted') :
    o.AcceptsAll accepted' entries :=
  ⟨h.decodes, h.accepted.trans hs.subperm⟩

theorem of_sublist (h : o.AcceptsAll accepted entries) (hs : entries'.Sublist entries) :
    o.AcceptsAll accepted entries' :=
  ⟨fun e he => h.decodes e (hs.subset he), (hs.filterMap _).subperm.trans h.accepted⟩

theorem perm (h : o.AcceptsAll accepted entries) (hp : entries.Perm entries') :
    o.AcceptsAll accepted entries' :=
  ⟨fun e he => h.decodes e (hp.mem_iff.2 he), (hp.filterMap _).symm.subperm.trans h.accepted⟩

/-- Two lists of logs do not share acceptances. -/
theorem append (h : o.AcceptsAll accepted entries) (h' : o.AcceptsAll accepted' entries') :
    o.AcceptsAll (accepted ++ accepted') (entries ++ entries') := by
  refine ⟨fun e he => ?_, ?_⟩
  · rcases List.mem_append.1 he with he | he
    · exact h.decodes e he
    · exact h'.decodes e he
  · rw [List.filterMap_append]
    exact h.accepted.append h'.accepted

end AcceptsAll

/-- A tick that applies a window under the hold policy had all its known logs accepted. -/
theorem Trace.accepts_of_applied (ho : o.policy = .hold) {v v' : View} {es : List TickEvent}
    {w : Window} {tally : Tally}
    (h : o.Trace (o.startTick v) es (.finished (.ok (.applied w tally)) v'))
    (hu : Undisturbed es) {all : List LogEntry} (hs : Serves all es) :
    o.AcceptsAll (TickEvent.acceptances es) (logsIn all o.contract w) := by
  rcases h.tick_cases hu with ⟨-, -, -, hn⟩ | ⟨head, w', entries, fs, u, rfl, -, -, -, run, hfs⟩
  · cases hn
  · obtain ⟨rfl, -, ha, hall⟩ := run.relay_hold ho hfs
    have hperm := hs o.contract w entries (by simp)
    refine AcceptsAll.perm ⟨fun e he hk => ?_, (List.Perm.of_eq ha.symm).subperm⟩ hperm
    rcases hall e he with hi | ⟨event, s, hc⟩
    · exact absurd hi hk.classify_ne_ignored
    · obtain ⟨hd, hsub⟩ := decode_of_submitted hc
      exact ⟨event, s, hd, hsub, submission?_of_submitted hc⟩

/-- A chain that the ledger has a height of is initialized at this height. -/
theorem Trace.initialized_of_recorded {v v' : View} {es : List TickEvent} {height : UInt64}
    (h : o.Trace (o.startTick v) es (.finished (.ok (.initialized height)) v'))
    (hu : Undisturbed es) {P : UInt64 → Prop}
    (recorded : ∀ chain answer, .answered (.recordedHeight chain) answer ∈ es →
      ∃ height, answer = .ok height ∧ 0 < height ∧ P height) : P height := by
  obtain ⟨hn, -⟩ := h.of_startTick hu
  have hn : v.watermark? o.chain = none := hn
  rw [startTick_eq, hn] at h
  obtain ⟨reply, fs, rfl, h, -⟩ := h.of_waiting_finished hu
  obtain ⟨known, rfl, hpos, hp⟩ := recorded o.chain reply List.mem_cons_self
  have hne : known ≠ 0 := by
    rintro rfl
    exact absurd hpos (by decide)
  simp only [resumeTick, Shared.recordedStart?, hne, if_false] at h
  obtain ⟨-, ht⟩ := h.of_finished
  cases ht
  exact hp

/-! ## Histories under the hold policy -/

/-- What the hold policy keeps: the watermark is not past what was written, and up to whatever was
written, the known logs behind the first watermark are accepted. -/
structure Kept (o : Observer) (all : List LogEntry) (is : List Episode)
    (watermark : Option UInt64) : Prop where
  reached : ∀ m, watermark = some m → ∃ x ∈ heights is, m ≤ x
  started : heights is = [] ↔ initializations is = []
  accepts : ∀ first, (initializations is).head? = some first → ∀ x ∈ heights is,
    o.AcceptsAll (is.flatMap Episode.acceptances) (logsBetween all o.contract first x)

namespace Kept

variable {all : List LogEntry} {is : List Episode} {i : Episode} {watermark : Option UInt64}

/-- An episode that writes nothing. -/
theorem concat_idle (h : o.Kept all is watermark) (hw : i.written? = none)
    (hi : i.initialized? = none) {watermark' : Option UInt64}
    (hm : ∀ m, watermark' = some m → watermark = some m) : o.Kept all (is ++ [i]) watermark' := by
  have heights_eq : heights (is ++ [i]) = heights is := by
    rw [heights_concat, hw, Option.toList_none, List.append_nil]
  have init_eq : initializations (is ++ [i]) = initializations is := by
    rw [initializations_concat, hi, Option.toList_none, List.append_nil]
  refine ⟨?_, ?_, ?_⟩
  · intro m hm'
    rw [heights_eq]
    exact h.reached m (hm m hm')
  · rw [heights_eq, init_eq]
    exact h.started
  · rw [heights_eq, init_eq, List.flatMap_append]
    intro first hf x hx
    exact (h.accepts first hf x hx).mono (List.sublist_append_left _ _)

/-- An episode that initializes the chain, at a height that is not past what was written if
anything was. -/
theorem concat_initialized (h : o.Kept all is watermark) {height : UInt64}
    (hw : i.written? = some height) (hi : i.initialized? = some height)
    (hle : heights is ≠ [] → ∃ x ∈ heights is, height ≤ x) :
    o.Kept all (is ++ [i]) (some height) := by
  have heights_eq : heights (is ++ [i]) = heights is ++ [height] := by
    rw [heights_concat, hw, Option.toList_some]
  have init_eq : initializations (is ++ [i]) = initializations is ++ [height] := by
    rw [initializations_concat, hi, Option.toList_some]
  refine ⟨?_, ?_, ?_⟩
  · intro m hm
    cases hm
    rw [heights_eq]
    exact ⟨height, List.mem_append_right _ List.mem_cons_self, UInt64.le_refl _⟩
  · rw [heights_eq, init_eq]
    simp
  · rw [heights_eq, init_eq, List.flatMap_append]
    intro first hf x hx
    by_cases hnil : heights is = []
    · -- the first initialization: no log lies behind the watermark up to itself
      rw [hnil, List.nil_append, List.mem_singleton] at hx
      rw [h.started.1 hnil] at hf
      obtain rfl : height = first := Option.some.inj hf
      rw [hx, logsBetween_self]
      exact .nil ..
    · obtain ⟨y, ys, hys⟩ := List.exists_cons_of_ne_nil (mt h.started.2 hnil)
      rw [hys] at hf
      have hf : (initializations is).head? = some first := hys ▸ hf
      refine AcceptsAll.mono ?_ (List.sublist_append_left _ _)
      rcases List.mem_append.1 hx with hx | hx
      · exact h.accepts first hf x hx
      · obtain ⟨y, hy, hle⟩ := hle hnil
        rw [List.mem_singleton.1 hx]
        exact (h.accepts first hf y hy).of_sublist (logsBetween_sublist _ _ _ hle)

/-- An episode that applies a window behind the watermark with all its known logs accepted. -/
theorem concat_applied {m : UInt64} (h : o.Kept all is (some m)) {w : Window} (hf : w.Follows m)
    (hw : i.written? = some w.last) (hi : i.initialized? = none)
    (ha : o.AcceptsAll i.acceptances (logsIn all o.contract w)) :
    o.Kept all (is ++ [i]) (some w.last) := by
  have heights_eq : heights (is ++ [i]) = heights is ++ [w.last] := by
    rw [heights_concat, hw, Option.toList_some]
  have init_eq : initializations (is ++ [i]) = initializations is := by
    rw [initializations_concat, hi, Option.toList_none, List.append_nil]
  obtain ⟨y, hy, hmy⟩ := h.reached m rfl
  refine ⟨?_, ?_, ?_⟩
  · intro m' hm
    cases hm
    rw [heights_eq]
    exact ⟨w.last, List.mem_append_right _ List.mem_cons_self, UInt64.le_refl _⟩
  · have hne : heights is ≠ [] := List.ne_nil_of_mem hy
    rw [heights_eq, init_eq, ← h.started]
    simp [hne]
  · rw [heights_eq, init_eq, List.flatMap_append, List.flatMap_singleton]
    intro first hfirst x hx
    rcases List.mem_append.1 hx with hx | hx
    · exact (h.accepts first hfirst x hx).mono (List.sublist_append_left _ _)
    · rw [List.mem_singleton.1 hx]
      obtain ⟨old, new, hperm, hold, hnew⟩ :=
        exists_logsBetween_split all o.contract first hf hmy
      exact (((h.accepts first hfirst y hy).of_sublist hold).append
        (ha.of_sublist hnew)).perm hperm

end Kept

/-- **A history under the hold policy keeps what was written accepted.** -/
theorem History.kept (ho : o.policy = .hold) {v v' : View} {is : List Episode}
    {all : List LogEntry} (fresh : v.watermark? o.chain = none) (h : o.History v is v')
    (quiet : ∀ i ∈ is, i.IsQuiet) (serves : ∀ i ∈ is, Serves all i.events)
    (recorded : Recorded is) : o.Kept all is (v'.watermark? o.chain) := by
  induction h with
  | nil =>
    rw [fresh]
    refine ⟨?_, Iff.rfl, ?_⟩
    · intro m hm
      cases hm
    · intro first hf
      cases hf
  | @tick is u u' es result before run ih =>
    simp only [List.forall_mem_append, List.forall_mem_singleton] at quiet serves
    obtain ⟨recorded, lookups⟩ := recorded_concat.1 recorded
    have ih := ih quiet.1 serves.1 recorded
    rcases run.watermark_cases quiet.2 with
        ⟨height, rfl, hn, hw⟩ | ⟨m, w, tally, rfl, hm, hf, hw⟩ | ⟨hi, ha, hw⟩
    · rw [hw]
      refine ih.concat_initialized rfl rfl ?_
      intro hne
      exact run.initialized_of_recorded quiet.2 (lookups hne)
    · rw [hm] at ih
      rw [hw]
      exact ih.concat_applied hf rfl rfl (run.accepts_of_applied ho quiet.2 serves.2)
    · rw [hw]
      exact ih.concat_idle (written?_eq_none hi ha) hi (fun _ hm => hm)
  | dropped before run ih =>
    simp only [List.forall_mem_append, List.forall_mem_singleton] at quiet serves
    have ih := ih quiet.1 serves.1 (recorded_concat.1 recorded).1
    obtain ⟨-, hw⟩ := run.of_startTick quiet.2
    refine ih.concat_idle rfl rfl ?_
    intro m hm
    exact hw.symm.trans hm
  | restart before ih =>
    simp only [List.forall_mem_append, List.forall_mem_singleton] at quiet serves
    have ih := ih quiet.1 serves.1 (recorded_concat.1 recorded).1
    refine ih.concat_idle rfl rfl ?_
    intro m hm
    cases hm
  | overridden before height ih =>
    simp only [List.forall_mem_append, List.forall_mem_singleton] at quiet
    exact quiet.2.elim

/-- A tick of a history that applied its window had all known logs of the window accepted. -/
theorem History.accepts_of_applied (ho : o.policy = .hold) {v v' : View} {is : List Episode}
    {all : List LogEntry} (h : o.History v is v') (quiet : ∀ i ∈ is, i.IsQuiet)
    (serves : ∀ i ∈ is, Serves all i.events) :
    ∀ i ∈ is, ∀ w, i.applied? = some w → o.AcceptsAll i.acceptances (logsIn all o.contract w) := by
  induction h with
  | nil =>
    intro i hi
    cases hi
  | @tick is u u' es result before run ih =>
    simp only [List.forall_mem_append, List.forall_mem_singleton] at quiet serves ⊢
    refine ⟨ih quiet.1 serves.1, fun w hw => ?_⟩
    match result, hw with
    | .ok (.applied _ tally), rfl => exact run.accepts_of_applied ho quiet.2 serves.2
  | dropped before run ih =>
    simp only [List.forall_mem_append, List.forall_mem_singleton] at quiet serves ⊢
    exact ⟨ih quiet.1 serves.1, nofun⟩
  | restart before ih =>
    simp only [List.forall_mem_append, List.forall_mem_singleton] at quiet serves ⊢
    exact ⟨ih quiet.1 serves.1, nofun⟩
  | overridden before height ih =>
    simp only [List.forall_mem_append, List.forall_mem_singleton] at quiet
    exact quiet.2.elim

/-- **The hold policy loses nothing.** Whatever the remote ends answer, wherever ticks are dropped
and however often the process restarts, in a history that begins without a watermark the known logs
behind the first watermark up to the current one decode, and the ledger accepted each of their
submissions, at least as often as there are logs with it. Each tick that applied a window had the
submissions of all its logs accepted itself, and the next tick does not move the watermark past a
log that fails in it. -/
theorem History.hold_loses_nothing (ho : o.policy = .hold) {v v' : View} {is : List Episode}
    {all : List LogEntry} (fresh : v.watermark? o.chain = none) (run : o.History v is v')
    (quiet : ∀ i ∈ is, i.IsQuiet) (serves : ∀ i ∈ is, Serves all i.events)
    (recorded : Recorded is) :
    (∀ w, v'.watermark? o.chain = some w →
        ∃ first, (initializations is).head? = some first ∧
          o.AcceptsAll (is.flatMap Episode.acceptances) (logsBetween all o.contract first w)) ∧
      (∀ i ∈ is, ∀ w, i.applied? = some w →
        o.AcceptsAll i.acceptances (logsIn all o.contract w)) ∧
      ∀ es result v'', o.Trace (o.startTick v') es (.finished result v'') → Undisturbed es →
        (∃ e ∈ TickEvent.logs es, o.Knows e ∧ ∃ f, decodeEntry o.chain o.schema e = .error f) ∨
            refusals es ≠ [] →
          v''.watermark? o.chain = v'.watermark? o.chain := by
  have kept := run.kept ho fresh quiet serves recorded
  refine ⟨?_, run.accepts_of_applied ho quiet serves, ?_⟩
  · intro w hw
    obtain ⟨x, hx, hle⟩ := kept.reached w hw
    obtain ⟨first, rest, hfirst⟩ :=
      List.exists_cons_of_ne_nil (mt kept.started.2 (List.ne_nil_of_mem hx))
    have hhead : (initializations is).head? = some first := by
      rw [hfirst]
      rfl
    exact ⟨first, hhead,
      (kept.accepts first hhead x hx).of_sublist (logsBetween_sublist _ _ _ hle)⟩
  · intro es result v'' h hu failed
    exact h.stays_of_failure ho hu failed

/-- A history with two equal logs, in which a tick is dropped while the ledger is to answer for the
second, and the process restarts. -/
def sampleRestart : List Episode :=
  [.tick [.answered (.recordedHeight ⟨"sample"⟩) (.ok 5)] (.ok (.initialized 5)),
    .dropped [.answered .head (.ok 8), .answered (.logs ⟨2⟩ ⟨6, 8⟩) (.ok [.sample, .sample]),
      .answered (.submit .sample) (.ok ⟨"id"⟩)],
    .restart,
    .tick [.answered (.recordedHeight ⟨"sample"⟩) (.ok 5)] (.ok (.initialized 5)),
    .tick [.answered .head (.ok 8), .answered (.logs ⟨2⟩ ⟨6, 8⟩) (.ok [.sample, .sample]),
      .answered (.submit .sample) (.ok ⟨"id"⟩), .answered (.submit .sample) (.ok ⟨"id"⟩)]
      (.ok (.applied ⟨6, 8⟩ ⟨2, 0, 0⟩))]

set_option maxRecDepth 4000 in
theorem hold_loses_nothing_sampleRestart :
    ∃ v, (sample .hold).History (sample .hold).initialView sampleRestart v ∧
      (sample .hold).AcceptsAll (sampleRestart.flatMap Episode.acceptances)
        [.sample, .sample] ∧
      ∀ i ∈ sampleRestart, i.applied? = some ⟨6, 8⟩ →
        (sample .hold).AcceptsAll i.acceptances [.sample, .sample] := by
  have run : (sample .hold).History (sample .hold).initialView sampleRestart _ :=
    .tick (.tick (.restart (.dropped (.tick .nil (trace_iff_follow.2 rfl))
      (trace_iff_follow.2 rfl))) (trace_iff_follow.2 rfl)) (trace_iff_follow.2 rfl)
  have quiet : ∀ i ∈ sampleRestart, i.IsQuiet := by
    simp [sampleRestart, IsQuiet]
  have serves : ∀ i ∈ sampleRestart, Serves [.sample, .sample] i.events := by
    intro i hi contract w entries h
    simp only [sampleRestart, List.mem_cons, List.not_mem_nil, or_false] at hi
    rcases hi with rfl | rfl | rfl | rfl | rfl <;> simp [events] at h
    all_goals
      obtain ⟨⟨rfl, rfl⟩, rfl⟩ := h
      decide
  have recorded : Recorded sampleRestart := by
    refine recorded_concat.2 ⟨recorded_concat.2 ⟨recorded_concat.2 ⟨recorded_concat.2
      ⟨recorded_concat.2 ⟨recorded_nil, ?_⟩, ?_⟩, ?_⟩, ?_⟩, ?_⟩
    · intro hne
      exact absurd rfl hne
    · intro _ chain answer h
      simp [events] at h
    · intro _ chain answer h
      cases h
    · intro _ chain answer h
      simp only [events, List.mem_singleton, answered.injEq, Request.recordedHeight.injEq] at h
      obtain ⟨rfl, h⟩ := h
      cases h
      exact ⟨5, rfl, by decide, 5, List.mem_cons_self, UInt64.le_refl 5⟩
    · intro _ chain answer h
      simp [events] at h
  obtain ⟨h, happlied, -⟩ := run.hold_loses_nothing rfl rfl quiet serves recorded
  obtain ⟨first, hfirst, hall⟩ := h 8 rfl
  obtain rfl : 5 = first := Option.some.inj hfirst
  exact ⟨_, run, hall, fun i hi hw => happlied i hi _ hw⟩

end Observer

end BridgeWatch
