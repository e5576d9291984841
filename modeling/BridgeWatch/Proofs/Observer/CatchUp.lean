import BridgeWatch.Proofs.Observer.ScanWindow

/-!
# Catching up with a head

An endpoint that answers for at most `limit` blocks at once (`Remote.Limited`) refuses the windows
of more blocks, and each refusal halves the next one. A window that is refused has at least two
blocks, so the logarithm of the window falls by one with each refusal in a row and bounds how many
there are (`exists_applied`); a window that is applied moves the watermark and restores the maximum.

* `tick_behind`, `tick_atHead`: what one tick does below the head and at the head.
* `catch_up`: the number of ticks until the watermark is at the head.
-/

namespace BridgeWatch

/-- A chain that stands still at a head, behind an endpoint that answers for a limited number of
blocks at once. Nothing is said about the ledger. -/
structure Remote.Limited {σ : Type} (remote : Remote σ) (head limit : UInt64) : Prop where
  head_eq : ∀ r, (remote.answer .head r).1 = .ok head
  answers : ∀ contract w r, w.size ≤ limit →
    ∃ entries, (remote.answer (.logs contract w) r).1 = .ok entries
  refuses : ∀ contract w r, limit < w.size →
    ∃ chain first last most, (remote.answer (.logs contract w) r).1 =
      .error (.rangeTooLarge chain first last most)

/-- The watermark of a chain lies between two heights. -/
def View.Within (v : View) (chain : ChainId) (low high : UInt64) : Prop :=
  ∃ m, v.watermark? chain = some m ∧ low ≤ m ∧ m ≤ high

namespace Observer

variable {σ : Type}

/-- What is left by some ticks, one after the other: the observer's view and the remote ends. -/
def after (o : Observer) (remote : Remote σ) (s : View × σ) : Nat → View × σ
  | 0 => s
  | n + 1 => (o.tick remote (after o remote s n).1 (after o remote s n).2).2

/-- The result of the tick that follows some others. -/
def resultAfter (o : Observer) (remote : Remote σ) (s : View × σ) (n : Nat) : TickResult :=
  (o.tick remote (o.after remote s n).1 (o.after remote s n).2).1

theorem after_add (o : Observer) (remote : Remote σ) (s : View × σ) (m n : Nat) :
    o.after remote s (m + n) = o.after remote (o.after remote s m) n := by
  induction n with
  | zero => rfl
  | succ n ih =>
    rw [← Nat.add_assoc, after, after, ih]

theorem resultAfter_add (o : Observer) (remote : Remote σ) (s : View × σ) (m n : Nat) :
    o.resultAfter remote s (m + n) = o.resultAfter remote (o.after remote s m) n := by
  rw [resultAfter, after_add, resultAfter]

/-! ## One tick -/

theorem complete_waiting (o : Observer) (remote : Remote σ) (p : Phase) (v : View) (r : σ) :
    o.complete remote (.waiting p v) r =
      o.complete remote (o.resumeTick v p (remote.answer (p.request o) r).1)
        (remote.answer (p.request o) r).2 := by
  rw [complete]

theorem complete_finishTick (o : Observer) (remote : Remote σ) (result : TickResult) (v : View)
    (r : σ) : ∃ v', o.complete remote (o.finishTick result v) r = (result, v', r) ∧
      v'.progress.window = v.progress.window := by
  obtain ⟨v', h, hw⟩ := o.window_finishTick result v
  rw [h, complete]
  exact ⟨v', rfl, hw⟩

/-- A tick keeps the window of the next scan within its bounds. -/
theorem scans_tick {o : Observer} (ho : 1 ≤ o.maxWindow) (remote : Remote σ) {v : View} (r : σ)
    (hv : o.Scans v) : o.Scans (o.tick remote v r).2.1 := by
  obtain ⟨es, -, run⟩ := complete_trace o remote (o.startTick v) r
  exact (run.resizes (resizes_startTick o v)).scans ho hv

theorem scans_after {o : Observer} (ho : 1 ≤ o.maxWindow) (remote : Remote σ) {s : View × σ}
    (hs : o.Scans s.1) (n : Nat) : o.Scans (o.after remote s n).1 := by
  induction n with
  | zero => exact hs
  | succ n ih => exact scans_tick ho remote _ ih

/-- A tick leaves the watermark that its result says. -/
theorem watermark?_tick (o : Observer) (remote : Remote σ) (v : View) (r : σ) :
    (o.tick remote v r).2.1.watermark? o.chain =
      (o.tick remote v r).1.written?.or (v.watermark? o.chain) := by
  obtain ⟨es, hu, run⟩ := complete_trace o remote (o.startTick v) r
  exact (run.of_startTick hu).2

section Limited

variable {o : Observer} {remote : Remote σ} {head limit m : UInt64} {v : View}

/-- A tick past a watermark goes on with the head. -/
theorem tick_of_watermark (limited : remote.Limited head limit)
    (hm : v.watermark? o.chain = some m) (r : σ) : o.tick remote v r =
      o.complete remote (o.afterHead m (.ok head) (v.setState .scanning))
        (remote.answer .head r).2 := by
  rw [tick, startTick_eq, hm]
  dsimp only
  rw [complete_waiting]
  show o.complete remote (o.afterHead m (remote.answer .head r).1 _) (remote.answer .head r).2 = _
  rw [limited.head_eq]

/-- **A tick at the head finds no new blocks.** It asks for nothing but the head. -/
theorem tick_atHead (limited : remote.Limited head limit)
    (hm : v.watermark? o.chain = some head) (r : σ) :
    (o.tick remote v r).1 = .ok (.noNewBlocks head) ∧
      (o.tick remote v r).2.1.watermark? o.chain = some head ∧
      (o.tick remote v r).2.2 = (remote.answer .head r).2 := by
  have hnext (window : UInt64) : Window.next? head head window = none := if_pos (UInt64.le_refl _)
  obtain ⟨hr, hs⟩ : (o.tick remote v r).1 = .ok (.noNewBlocks head) ∧
      (o.tick remote v r).2.2 = (remote.answer .head r).2 := by
    rw [tick_of_watermark limited hm]
    simp only [afterHead, hnext]
    obtain ⟨v', h, -⟩ := o.complete_finishTick remote (.ok (.noNewBlocks head)) _ _
    rw [h]
    exact ⟨rfl, rfl⟩
  refine ⟨hr, ?_, hs⟩
  rw [watermark?_tick, hr, hm]
  rfl

/-- Past the watermark a head leads to a window. -/
theorem afterHead_of_next? {w : Window} (h : Window.next? m head v.progress.window = some w) :
    ∃ u, o.afterHead m (.ok head) v = .waiting (.fetch w) u ∧
      u.progress.window = v.progress.window ∧ u.watermark? o.chain = v.watermark? o.chain := by
  let u := (v.modifyStatus fun s => { s with lastHead := some head }).modifyShared
    (·.recordHead o.chain head)
  have hu : Window.next? m head u.progress.window = some w := h
  refine ⟨u, ?_, rfl, rfl⟩
  simp only [afterHead]
  rw [hu]

/-- A tick past a watermark fetches the logs of a window, if there is one. -/
theorem tick_fetches (limited : remote.Limited head limit) (hm : v.watermark? o.chain = some m)
    {w : Window} (hw : Window.next? m head v.progress.window = some w) (r : σ) :
    ∃ u r', u.progress.window = v.progress.window ∧ u.watermark? o.chain = some m ∧
      o.tick remote v r =
        o.complete remote (o.afterFetch w (remote.answer (.logs o.contract w) r').1 u)
          (remote.answer (.logs o.contract w) r').2 := by
  obtain ⟨u, hu, hwindow, hmark⟩ := afterHead_of_next? (o := o) (v := v.setState .scanning) hw
  refine ⟨u, (remote.answer .head r).2, hwindow, hmark.trans hm, ?_⟩
  rw [tick_of_watermark limited hm, hu, complete_waiting]
  rfl

/-- A window that the endpoint answers for is applied. -/
theorem tick_of_size_le (skip : o.policy = .skip) (limited : remote.Limited head limit)
    (hm : v.watermark? o.chain = some m) {w : Window}
    (hw : Window.next? m head v.progress.window = some w) (hsize : w.size ≤ limit) (r : σ) :
    ∃ tally, (o.tick remote v r).1 = .ok (.applied w tally) := by
  obtain ⟨u, r', -, hmark, htick⟩ := tick_fetches limited hm hw r
  obtain ⟨entries, hanswer⟩ := limited.answers o.contract w r' hsize
  rw [htick, hanswer]
  obtain ⟨es, hu, run⟩ := complete_trace o remote
    (o.relayEntries w .zero entries (u.setState .applying))
    (remote.answer (.logs o.contract w) r').2
  have hmark : (u.setState .applying).watermark? o.chain = some m := hmark
  exact (run.relay_skip skip ⟨m, hmark, (Window.follows_next? hw).1⟩ hu).1

/-- A window that the endpoint refuses is halved. -/
theorem tick_of_lt_size (limited : remote.Limited head limit)
    (hm : v.watermark? o.chain = some m) {w : Window}
    (hw : Window.next? m head v.progress.window = some w) (hsize : limit < w.size) (r : σ) :
    (o.tick remote v r).1.written? = none ∧
      (o.tick remote v r).2.1.progress.window = halved v.progress.window := by
  obtain ⟨u, r', hwindow, -, htick⟩ := tick_fetches limited hm hw r
  obtain ⟨chain, first, last, most, hanswer⟩ := limited.refuses o.contract w r' hsize
  obtain ⟨v', hend, hwindow'⟩ := o.complete_finishTick remote
    (.error (.rangeTooLarge chain first last most)) (u.setWindow (halved u.progress.window))
    (remote.answer (.logs o.contract w) r').2
  rw [hanswer] at htick
  rw [htick.trans hend]
  exact ⟨rfl, hwindow'.trans (congrArg halved hwindow)⟩

/-- **A tick below the head** applies a window past the watermark, or the endpoint refuses the
window and the next one is half as large. -/
theorem tick_behind (skip : o.policy = .skip) (limited : remote.Limited head limit)
    (hlimit : 1 ≤ limit) (hm : v.watermark? o.chain = some m) (hlt : m < head) (hv : o.Scans v)
    (r : σ) :
    (∃ w tally, (o.tick remote v r).1 = .ok (.applied w tally) ∧
        (o.tick remote v r).2.1.watermark? o.chain = some w.last ∧ m < w.last ∧ w.last ≤ head) ∨
      (2 ≤ v.progress.window.toNat ∧ (o.tick remote v r).2.1.watermark? o.chain = some m ∧
        (o.tick remote v r).2.1.progress.window.toNat = v.progress.window.toNat / 2) := by
  obtain ⟨w, hw⟩ := Option.isSome_iff_exists.1
    ((Window.next?_isSome_iff m head v.progress.window).2 hlt)
  obtain ⟨hfollows, hlast⟩ := Window.follows_next? hw
  by_cases hsize : w.size ≤ limit
  · left
    obtain ⟨tally, hresult⟩ := tick_of_size_le skip limited hm hw hsize r
    refine ⟨w, tally, hresult, ?_, hfollows.lt_last, hlast⟩
    rw [watermark?_tick, hresult]
    rfl
  · right
    have hsize := UInt64.not_le.1 hsize
    obtain ⟨hresult, hwindow⟩ := tick_of_lt_size limited hm hw hsize r
    -- what is refused has more than one block, and the window is no smaller
    have htwo : 2 ≤ v.progress.window.toNat := by
      have hle := Window.size_next?_le hv.1 hw
      rw [UInt64.le_iff_toNat_le] at hle hlimit
      rw [UInt64.lt_iff_toNat_lt] at hsize
      have : (1 : UInt64).toNat = 1 := rfl
      omega
    refine ⟨htwo, ?_, ?_⟩
    · rw [watermark?_tick, hresult, hm]
      rfl
    · rw [hwindow, toNat_halved]
      omega

end Limited

/-! ## Many ticks -/

section CatchUp

variable {o : Observer} {remote : Remote σ} {head limit : UInt64}

/-- The watermark of a chain below the head does not move back, nor past the head. -/
theorem within_after (skip : o.policy = .skip) (ho : 1 ≤ o.maxWindow)
    (limited : remote.Limited head limit) (hlimit : 1 ≤ limit) {s : View × σ} (hs : o.Scans s.1)
    {low : UInt64} (hm : s.1.Within o.chain low head) (n : Nat) :
    (o.after remote s n).1.Within o.chain low head := by
  induction n with
  | zero => exact hm
  | succ n ih =>
    obtain ⟨m, hmark, hlow, hhigh⟩ := ih
    rw [after]
    rcases UInt64.lt_or_eq_of_le hhigh with hlt | rfl
    · have hv := scans_after ho remote hs n
      rcases tick_behind skip limited hlimit hmark hlt hv (o.after remote s n).2 with
        ⟨w, tally, -, hw, hmw, hle⟩ | ⟨-, hw, -⟩
      · exact ⟨w.last, hw, UInt64.le_trans hlow (UInt64.le_of_lt hmw), hle⟩
      · exact ⟨m, hw, hlow, hhigh⟩
    · exact ⟨m, (tick_atHead limited hmark _).2.1, hlow, hhigh⟩

/-- **Below the head a window is soon applied.** Each refusal in a row halves the window, so there
are no more of them than the logarithm of the window. -/
theorem exists_applied (skip : o.policy = .skip) (ho : 1 ≤ o.maxWindow)
    (limited : remote.Limited head limit) (hlimit : 1 ≤ limit) {d : Nat} {s : View × σ}
    (hs : o.Scans s.1) (hd : s.1.progress.window.toNat.log2 ≤ d) {m : UInt64}
    (hm : s.1.watermark? o.chain = some m) (hlt : m < head) :
    ∃ k ≤ d, (∃ w tally, o.resultAfter remote s k = .ok (.applied w tally)) ∧
      ∃ next, (o.after remote s (k + 1)).1.watermark? o.chain = some next ∧
        m < next ∧ next ≤ head := by
  induction d generalizing s with
  | zero =>
    rcases tick_behind skip limited hlimit hm hlt hs s.2 with
      ⟨w, tally, hr, hw, hmw, hle⟩ | ⟨htwo, -⟩
    · exact ⟨0, Nat.le_refl _, ⟨w, tally, hr⟩, w.last, hw, hmw, hle⟩
    · rw [Nat.log2_def, if_pos htwo] at hd
      omega
  | succ d ih =>
    rcases tick_behind skip limited hlimit hm hlt hs s.2 with
      ⟨w, tally, hr, hw, hmw, hle⟩ | ⟨htwo, hm', hhalf⟩
    · exact ⟨0, Nat.zero_le _, ⟨w, tally, hr⟩, w.last, hw, hmw, hle⟩
    · rw [Nat.log2_def, if_pos htwo, ← hhalf] at hd
      obtain ⟨k, hk, happlied, hnext⟩ := ih (s := (o.tick remote s.1 s.2).2)
        (scans_tick ho remote s.2 hs) (Nat.le_of_succ_le_succ hd) hm'
      refine ⟨1 + k, by omega, ?_, ?_⟩
      · rw [resultAfter_add]
        exact happlied
      · rw [Nat.add_assoc, after_add]
        exact hnext

/-- The greatest number of ticks it takes to apply a window. -/
def round (o : Observer) : Nat := o.maxWindow.toNat.log2 + 1

theorem Scans.log2_lt_round {v : View} (h : o.Scans v) :
    v.progress.window.toNat.log2 < o.round := by
  obtain ⟨hone, hmax⟩ := h
  rw [UInt64.le_iff_toNat_le] at hone hmax
  have : (1 : UInt64).toNat = 1 := rfl
  refine Nat.lt_succ_of_le ((Nat.le_log2 (by omega)).2 ?_)
  exact Nat.le_trans (Nat.log2_self_le (by omega)) hmax

/-- After each round the watermark is at least one block further, if it is not at the head. -/
theorem le_after_rounds (skip : o.policy = .skip) (ho : 1 ≤ o.maxWindow)
    (limited : remote.Limited head limit) (hlimit : 1 ≤ limit) {s : View × σ} (hs : o.Scans s.1)
    {low : UInt64} (hm : s.1.Within o.chain low head) (j : Nat) :
    ∃ m, (o.after remote s (j * o.round)).1.watermark? o.chain = some m ∧ m ≤ head ∧
      min (low.toNat + j) head.toNat ≤ m.toNat := by
  induction j with
  | zero =>
    rw [Nat.zero_mul]
    obtain ⟨m, hm, hlow, hhigh⟩ := hm
    rw [UInt64.le_iff_toNat_le] at hlow
    exact ⟨m, hm, hhigh, by omega⟩
  | succ j ih =>
    obtain ⟨m, hmark, hle, hj⟩ := ih
    have hv := scans_after ho remote hs (j * o.round)
    rw [Nat.succ_mul, after_add]
    generalize o.after remote s (j * o.round) = t at hmark hv
    rcases UInt64.lt_or_eq_of_le hle with hlt | rfl
    · obtain ⟨k, hk, -, next, hnext, hmn, hnh⟩ := exists_applied skip ho limited hlimit hv
        (Nat.le_of_lt_succ hv.log2_lt_round) hmark hlt
      -- what is left of the round does not move the watermark back
      obtain ⟨rest, hrest⟩ := Nat.exists_eq_add_of_le (Nat.succ_le_succ hk)
      have hround : o.round = k + 1 + rest := hrest
      obtain ⟨m', hm', hlow, hhigh⟩ := within_after skip ho limited hlimit
        (scans_after ho remote hv (k + 1)) ⟨next, hnext, UInt64.le_refl _, hnh⟩ rest
      rw [← after_add, ← hround] at hm'
      rw [UInt64.lt_iff_toNat_lt] at hmn
      rw [UInt64.le_iff_toNat_le] at hlow
      exact ⟨m', hm', hhigh, by omega⟩
    · obtain ⟨m', hm', hlow, hhigh⟩ := within_after skip ho limited hlimit hv
        ⟨m, hmark, UInt64.le_refl _, UInt64.le_refl _⟩ o.round
      rw [UInt64.le_iff_toNat_le] at hlow
      exact ⟨m', hm', hhigh, by omega⟩

/-- **Bounded catch-up.** An observer that skips what fails, whatever has happened to it before,
with a watermark below a head that stands still, behind an endpoint that answers for at most `limit`
blocks at once: of as many ticks in a row as a round has, if the watermark is below the head before
them, one applies a window; the watermark never passes the head and is there after one round for
each block that was missing; and at the head each tick finds no new blocks and asks for nothing but
the head. -/
theorem catch_up (skip : o.policy = .skip) (ho : 1 ≤ o.maxWindow) {earlier : List Episode}
    {v : View} (reached : o.History o.initialView earlier v)
    (limited : remote.Limited head limit) (hlimit : 1 ≤ limit) {w : UInt64}
    (hw : v.watermark? o.chain = some w) (hlt : w < head) (r : σ) :
    (∀ n, (∃ m, (o.after remote (v, r) n).1.watermark? o.chain = some m ∧ m < head) →
      ∃ k < o.round, ∃ window tally,
        o.resultAfter remote (v, r) (n + k) = .ok (.applied window tally)) ∧
    (∀ n, (o.after remote (v, r) n).1.Within o.chain w head) ∧
    (∀ n, (head.toNat - w.toNat) * o.round ≤ n →
      (o.after remote (v, r) n).1.watermark? o.chain = some head) ∧
    ∀ n, (o.after remote (v, r) n).1.watermark? o.chain = some head →
      o.resultAfter remote (v, r) n = .ok (.noNewBlocks head) ∧
      (o.after remote (v, r) (n + 1)).1.watermark? o.chain = some head ∧
      (o.after remote (v, r) (n + 1)).2 =
        (remote.answer .head (o.after remote (v, r) n).2).2 := by
  have hs : o.Scans v := reached.scans ho (scans_initialView ho)
  have hwithin : v.Within o.chain w head := ⟨w, hw, UInt64.le_refl _, UInt64.le_of_lt hlt⟩
  refine ⟨?_, within_after skip ho limited hlimit hs hwithin, ?_, ?_⟩
  · rintro n ⟨m, hm, hlt⟩
    have hn := scans_after ho remote (s := (v, r)) hs n
    obtain ⟨k, hk, happlied, -⟩ := exists_applied skip ho limited hlimit hn
      (Nat.le_of_lt_succ hn.log2_lt_round) hm hlt
    refine ⟨k, Nat.lt_succ_of_le hk, ?_⟩
    rw [resultAfter_add]
    exact happlied
  · intro n hn
    obtain ⟨rest, rfl⟩ := Nat.exists_eq_add_of_le hn
    obtain ⟨m, hm, hle, hj⟩ := le_after_rounds skip ho limited hlimit (s := (v, r)) hs hwithin
      (head.toNat - w.toNat)
    rw [UInt64.lt_iff_toNat_lt] at hlt
    obtain rfl : m = head := by
      rw [UInt64.le_iff_toNat_le] at hle
      exact UInt64.toNat_inj.1 (by omega)
    obtain ⟨m', hm', hlow, hhigh⟩ := within_after skip ho limited hlimit
      (scans_after ho remote (s := (v, r)) hs _) ⟨m, hm, UInt64.le_refl _, UInt64.le_refl _⟩ rest
    rw [after_add, hm', UInt64.le_antisymm hhigh hlow]
  · intro n hn
    exact tick_atHead limited hn _

end CatchUp

/-- A chain at block 20 without logs, behind an endpoint that answers for three blocks at once, and
a ledger that does not answer. -/
def sampleEndpoint : Remote Unit where
  answer
    | .recordedHeight _, r => (.error default, r)
    | .head, r => (.ok 20, r)
    | .logs _ w, r =>
      (if w.size ≤ 3 then .ok [] else .error (.rangeTooLarge ⟨"sample"⟩ w.first w.last 3), r)
    | .submit _, r => (.error default, r)

theorem limited_sampleEndpoint : sampleEndpoint.Limited 20 3 where
  head_eq _ := rfl
  answers _ _ _ h := ⟨[], if_pos h⟩
  refuses _ w _ h := ⟨⟨"sample"⟩, w.first, w.last, 3, if_neg (UInt64.not_le.2 h)⟩

/-- From block 5 the sample observer is at block 20 after fifteen rounds of four ticks. -/
theorem catch_up_sampleEndpoint :
    ((sample .skip).after sampleEndpoint
      ((sample .skip).initialView.override ⟨"sample"⟩ 5, ()) 60).1.watermark? ⟨"sample"⟩ =
      some 20 :=
  (catch_up rfl (by decide) (.overridden .nil 5) limited_sampleEndpoint (by decide)
    (View.watermark?_override ..) (by decide) ()).2.2.1 60 (by decide)

end Observer

end BridgeWatch
