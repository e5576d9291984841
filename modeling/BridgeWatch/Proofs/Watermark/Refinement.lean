import BridgeWatch.Proofs.Binary64
import BridgeWatch.Proofs.Chain
import BridgeWatch.Proofs.Observer.CatchUp
import Mathlib.Logic.Function.Basic

/-!
# The watermarks are a plain map

Advancing, overriding and initializing write one store and one record of gauges, each by a rule of
its own.

* `Heights.Takes` says what each call does to a plain map from chains to heights, and how it
  answers; `Heights.Run` lets calls follow each other.
* `Shared.Holds` is the invariant: the store and the gauges have the heights of a plain map
  (`Holds.perform`, `Holds.performAll`). Out of it, `Shared.Shows` is what can be read.
* `Shared.refines_map`: every sequence of calls is a run of the plain map.
* `Observer.tick_of_watermark?_eq_none`: a tick of a chain without a watermark is an initialization,
  for which it asks the ledger once, and for the head once or not at all.
-/

namespace BridgeWatch

/-- A call that may change watermarks. -/
inductive WatermarkCall
  | advance (chain : ChainId) (height : UInt64)
  | resync (chain : ChainId) (height : UInt64)
  /-- With what the ledger answers, and what the chain answers if its head is read. -/
  | start (chain : ChainId) (recorded head : Except Fault UInt64)

/-- What a call answers. -/
inductive WatermarkReply
  | advanced
  | refused (cause : Fault)
  /-- The watermark that was overridden. -/
  | overridden (previous : Option UInt64)
  /-- The first watermark, and how often the head was read for it. -/
  | started (result : Except Fault UInt64) (headReads : Nat)

/-- A call that may move the watermark of a chain back. -/
def WatermarkCall.Resets (chain : ChainId) : WatermarkCall → Prop
  | advance _ _ => False
  | resync c _ | start c _ _ => c = chain

/-- The answer of a call that did not succeed. -/
def WatermarkReply.Fails : WatermarkReply → Prop
  | refused _ | started (.error _) _ => True
  | _ => False

/-! ## The plain map -/

/-- A plain map from chains to heights. -/
abbrev Heights := ChainId → Option UInt64

namespace Heights

/-- Sets the height of a chain. -/
def set (m : Heights) (chain : ChainId) (height : UInt64) : Heights :=
  Function.update m chain (some height)

theorem set_self (m : Heights) (chain : ChainId) (height : UInt64) :
    m.set chain height chain = some height :=
  Function.update_self ..

theorem set_of_ne (m : Heights) {chain other : ChainId} (h : other ≠ chain) (height : UInt64) :
    m.set chain height other = m other :=
  Function.update_of_ne h ..

/-- What a call does to a plain map, and how it answers. -/
inductive Takes (m : Heights) : WatermarkCall → WatermarkReply → Heights → Prop
  | advanced {chain height} (forward : ∀ current, m chain = some current → current ≤ height) :
    Takes m (.advance chain height) .advanced (m.set chain height)
  | refused {chain current height} (stored : m chain = some current) (lower : height < current) :
    Takes m (.advance chain height) (.refused (.regression chain current height)) m
  | overridden {chain height} :
    Takes m (.resync chain height) (.overridden (m chain)) (m.set chain height)
  | resumed {chain height head} (known : height ≠ 0) :
    Takes m (.start chain (.ok height) head) (.started (.ok height) 0)
      (m.set chain height)
  | begun {chain recorded height} (unknown : ∀ h, recorded = .ok h → h = 0) :
    Takes m (.start chain recorded (.ok height)) (.started (.ok height) 1)
      (m.set chain height)
  | failed {chain recorded f} (unknown : ∀ h, recorded = .ok h → h = 0) :
    Takes m (.start chain recorded (.error f)) (.started (.error f) 1) m

/-- Calls one after the other, with their answers. -/
inductive Run : Heights → List WatermarkCall → List WatermarkReply → Heights → Prop
  | nil {m} : Run m [] [] m
  | cons {m m' m'' call reply calls replies} (first : Takes m call reply m')
    (rest : Run m' calls replies m'') : Run m (call :: calls) (reply :: replies) m''

/-- A call that does not reset a chain does not move it back. -/
theorem Takes.le {m m' : Heights} {call : WatermarkCall} {reply : WatermarkReply}
    (h : m.Takes call reply m') {chain : ChainId} (hcall : ¬call.Resets chain) {height : UInt64}
    (hm : m chain = some height) : ∃ later, m' chain = some later ∧ height ≤ later := by
  have same : ∃ later, m chain = some later ∧ height ≤ later := ⟨height, hm, UInt64.le_refl _⟩
  have other {c : ChainId} (hc : c ≠ chain) (new : UInt64) :
      ∃ later, m.set c new chain = some later ∧ height ≤ later :=
    ⟨height, (m.set_of_ne (Ne.symm hc) new).trans hm, UInt64.le_refl _⟩
  cases h with
  | @advanced c new forward =>
    by_cases hc : c = chain
    · subst hc
      exact ⟨new, m.set_self .., forward height hm⟩
    · exact other hc new
  | refused => exact same
  | overridden => exact other hcall _
  | resumed => exact other hcall _
  | begun => exact other hcall _
  | failed => exact same

/-- Between two resets of a chain its height never decreases. -/
theorem Run.le {m m' : Heights} {calls : List WatermarkCall} {replies : List WatermarkReply}
    (h : Run m calls replies m') {chain : ChainId} (hcalls : ∀ call ∈ calls, ¬call.Resets chain)
    {height : UInt64} (hm : m chain = some height) :
    ∃ later, m' chain = some later ∧ height ≤ later := by
  induction h generalizing height with
  | nil => exact ⟨height, hm, UInt64.le_refl _⟩
  | cons first rest ih =>
    rw [List.forall_mem_cons] at hcalls
    obtain ⟨next, hnext, hle⟩ := first.le hcalls.1 hm
    obtain ⟨later, hlater, hle'⟩ := ih hcalls.2 hnext
    exact ⟨later, hlater, UInt64.le_trans hle hle'⟩

end Heights

/-! ## The calls -/

namespace Shared

variable {s : Shared} {m : Heights}

/-- Performs a call. -/
def perform (s : Shared) : WatermarkCall → WatermarkReply × Shared
  | .advance chain height =>
    match s.advance chain height with
    | .ok s' => (.advanced, s')
    | .error f => (.refused f, s)
  | .resync chain height =>
    let (previous, s') := s.resync chain height
    (.overridden previous, s')
  | .start chain recorded head =>
    let (result, reads, s') := s.initializeChain chain recorded head
    (.started result reads, s')

/-- Performs calls one after the other. -/
def performAll (s : Shared) : List WatermarkCall → List WatermarkReply × Shared
  | [] => ([], s)
  | call :: calls =>
    let (reply, s') := s.perform call
    let (replies, s'') := s'.performAll calls
    (reply :: replies, s'')

theorem performAll_append (s : Shared) (calls more : List WatermarkCall) :
    s.performAll (calls ++ more) =
      ((s.performAll calls).1 ++ ((s.performAll calls).2.performAll more).1,
        ((s.performAll calls).2.performAll more).2) := by
  induction calls generalizing s with
  | nil => rfl
  | cons call calls ih =>
    simp only [List.cons_append, performAll, ih]

/-- A start is unknown if the ledger does not answer, or answers zero. -/
theorem recordedStart?_cases (recorded : Except Fault UInt64) :
    (∃ height, recorded = .ok height ∧ height ≠ 0 ∧ recordedStart? recorded = some height) ∨
      ((∀ height, recorded = .ok height → height = 0) ∧ recordedStart? recorded = none) := by
  cases recorded with
  | error f => exact .inr ⟨fun _ h => (nomatch h), rfl⟩
  | ok height =>
    by_cases h : height = 0
    · refine .inr ⟨?_, if_pos h⟩
      rintro _ ⟨⟩
      exact h
    · exact .inl ⟨height, rfl, h, if_neg h⟩

/-- A call that fails changes nothing at all. -/
theorem perform_of_fails {call : WatermarkCall} (h : (s.perform call).1.Fails) :
    (s.perform call).2 = s := by
  cases call with
  | advance chain height =>
    rcases s.refused_or_advanced chain height with ⟨current, -, -, heq⟩ | ⟨-, heq⟩
    · simp only [perform, heq]
    · simp only [perform, heq] at h
      exact h.elim
  | resync chain height => exact h.elim
  | start chain recorded head =>
    unfold perform initializeChain at h ⊢
    rcases recordedStart?_cases recorded with ⟨height, -, -, heq⟩ | ⟨-, heq⟩
    · simp only [heq] at h
      exact h.elim
    · simp only [heq] at h ⊢
      cases head with
      | ok height => exact h.elim
      | error f => rfl

/-! ## The invariant -/

/-- The store and the gauges have the heights of a plain map. -/
structure Holds (s : Shared) (m : Heights) : Prop where
  heights : s.watermark? = m
  gauges : ∀ chain, s.metrics.get? (.watermark chain) = (m chain).map Metrics.gaugeValue
  /-- The store has at most one height for each chain. -/
  distinct : (s.watermarks.heights.map Prod.fst).Nodup

theorem holds_empty : empty.Holds fun _ => none := ⟨rfl, fun _ => rfl, List.nodup_nil⟩

/-- A watermark and its gauge change together, and those of other chains stay. -/
theorem Holds.setWatermark (h : s.Holds m) (chain : ChainId) (height : UInt64) :
    (s.setWatermark chain height).Holds (m.set chain height) := by
  have hm := h.heights
  refine ⟨?_, ?_, Assoc.nodup_keys_put chain height h.distinct⟩
  · funext other
    by_cases hc : other = chain
    · rw [hc, m.set_self]
      exact WatermarkStore.get?_set_self ..
    · rw [m.set_of_ne hc, ← hm]
      exact WatermarkStore.get?_set_of_ne _ hc height
  · intro other
    by_cases hc : other = chain
    · rw [hc, m.set_self]
      exact Assoc.find?_put_self ..
    · rw [m.set_of_ne hc, ← h.gauges]
      exact Assoc.find?_put_of_ne (fun heq => hc (Metric.watermark.inj heq)) ..

/-- A call does to the store what it does to the plain map. -/
theorem Holds.perform (h : s.Holds m) (call : WatermarkCall) :
    ∃ m', m.Takes call (s.perform call).1 m' ∧ (s.perform call).2.Holds m' := by
  obtain rfl := h.heights
  cases call with
  | advance chain height =>
    rcases s.refused_or_advanced chain height with ⟨current, hstored, hlt, heq⟩ | ⟨hle, heq⟩
    · simp only [Shared.perform, heq]
      exact ⟨_, .refused hstored hlt, h⟩
    · simp only [Shared.perform, heq]
      exact ⟨_, .advanced hle, h.setWatermark chain height⟩
  | resync chain height => exact ⟨_, .overridden, h.setWatermark chain height⟩
  | start chain recorded head =>
    rcases recordedStart?_cases recorded with ⟨height, rfl, hne, heq⟩ | ⟨hunknown, heq⟩
    · simp only [Shared.perform, initializeChain, heq]
      exact ⟨_, .resumed hne, h.setWatermark chain height⟩
    · simp only [Shared.perform, initializeChain, heq]
      cases head with
      | ok height => exact ⟨_, .begun hunknown, h.setWatermark chain height⟩
      | error f => exact ⟨_, .failed hunknown, h⟩

/-- Calls do to the store what they do to the plain map. -/
theorem Holds.performAll (h : s.Holds m) (calls : List WatermarkCall) :
    ∃ m', m.Run calls (s.performAll calls).1 m' ∧ (s.performAll calls).2.Holds m' := by
  induction calls generalizing s m with
  | nil => exact ⟨m, .nil, h⟩
  | cons call calls ih =>
    obtain ⟨m', htakes, hholds⟩ := h.perform call
    obtain ⟨m'', hrun, hholds'⟩ := ih hholds
    exact ⟨m'', .cons htakes hrun, hholds'⟩

/-! ## What can be read -/

/-- What can be read of the store and the gauges is a plain map. -/
structure Shows (s : Shared) (m : Heights) : Prop where
  /-- The watermark of each chain is its height. -/
  watermarks : ∀ chain, s.watermark? chain = m chain
  /-- The snapshot lists the heights, and nothing else. -/
  listed : ∀ chain height, (chain, height) ∈ s.watermarks.snapshot ↔ m chain = some height
  /-- It lists each chain before all that follow it, so none twice. -/
  increasing : s.watermarks.snapshot.Pairwise fun a b => a.1.before b.1 = true
  /-- A chain has a gauge if it has a height, and the gauge shows the height as a double. -/
  gauges : ∀ chain, s.metrics.get? (.watermark chain) = (m chain).map Metrics.gaugeValue
  /-- What a gauge shows is the double nearest to the height. -/
  nearest : ∀ chain height value, m chain = some height →
    s.metrics.get? (.watermark chain) = some value → Binary64.IsNearest height.toNat value

theorem Holds.shows (h : s.Holds m) : s.Shows m where
  watermarks := congrFun h.heights
  listed chain height := by
    rw [← h.heights]
    exact (List.mergeSort_perm ..).mem_iff.trans (Assoc.find?_eq_some_iff h.distinct).symm
  increasing := ChainId.pairwise_before_mergeSort h.distinct
  gauges := h.gauges
  nearest chain height value hm hvalue := by
    rw [h.gauges, hm] at hvalue
    cases hvalue
    exact Binary64.isNearest_magnitude_ofNat height.toNat_lt

/-- **The watermarks are a plain map**: whatever calls there were, they are a run of the plain map
from the empty one, with the same answers, and what can be read is that map; a further call that
fails leaves everything as it is; and until a chain is reset its height does not decrease. -/
theorem refines_map (calls : List WatermarkCall) :
    ∃ m, Heights.Run (fun _ => none) calls (empty.performAll calls).1 m ∧
      (empty.performAll calls).2.Shows m ∧
      (∀ call, ((empty.performAll calls).2.perform call).1.Fails →
        ((empty.performAll calls).2.perform call).2 = (empty.performAll calls).2) ∧
      ∀ chain height more, m chain = some height → (∀ call ∈ more, ¬call.Resets chain) →
        ∃ later, (empty.performAll (calls ++ more)).2.watermark? chain = some later ∧
          height ≤ later := by
  obtain ⟨m, hrun, hholds⟩ := holds_empty.performAll calls
  refine ⟨m, hrun, hholds.shows, fun _ => perform_of_fails, ?_⟩
  intro chain height more hm hmore
  obtain ⟨m', hrun', hholds'⟩ := hholds.performAll more
  rw [performAll_append, hholds'.heights]
  exact hrun'.le hmore hm

end Shared

/-! ## The calls of a tick -/

/-- A tick of a chain without a watermark initializes the chain. It asks the ledger, and then for
the head as often as the initialization reads it. -/
theorem Observer.tick_of_watermark?_eq_none {σ : Type} (o : Observer) (remote : Remote σ) (v : View)
    (r : σ) (h : v.shared.watermark? o.chain = none) :
    let recorded := remote.answer (.recordedHeight o.chain) r
    let head := remote.answer .head recorded.2
    let (result, reads, shared) := v.shared.initializeChain o.chain recorded.1 head.1
    o.tick remote v r =
      o.complete remote
        (o.finishTick (result.map .initialized) { v.setState .scanning with shared := shared })
        (if reads = 0 then recorded.2 else head.2) := by
  intro recorded head
  have hlookup : o.tick remote v r =
      o.complete remote (o.resumeTick (v.setState .scanning) .lookup recorded.1) recorded.2 := by
    rw [tick, startTick_eq, show v.watermark? o.chain = none from h]
    exact o.complete_waiting remote .lookup _ r
  rw [hlookup]
  rcases Shared.recordedStart?_cases recorded.1 with ⟨height, -, -, heq⟩ | ⟨-, heq⟩
  · simp only [Shared.initializeChain, resumeTick, heq]
    rfl
  · simp only [Shared.initializeChain, resumeTick, heq]
    rw [complete_waiting]
    -- the head is asked for now, and its answer ends the tick
    show o.complete remote (o.resumeTick (v.setState .scanning) .firstHead head.1) head.2 = _
    cases head.1 with
    | ok height => rfl
    | error f => rfl

end BridgeWatch
