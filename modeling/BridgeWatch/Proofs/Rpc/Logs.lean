import BridgeWatch.Rpc.Logs
import Mathlib.Algebra.Order.Group.Nat
import Mathlib.Data.List.Forall2
import Mathlib.Data.List.Nodup
import Mathlib.Data.Prod.Lex

/-!
# The entries that a node's logs make

* `RawLog.Makes` says what entry a log makes, field by field, and `RawLog.IsKept` which logs make
  one (`RawLog.entry?_eq_some_iff`, `forall₂_makes`).
* `Arranges` says that entries were brought into the order of their places, block by block, and that
  entries of one place were left in the order in which they were. There is one way to do so
  (`eq_of_entriesAt_eq`), and that is what is done (`arranges_mergeSort`).
* `entriesOfLogs_lossless`: the entries of logs are those that the kept logs make, arranged. Hence
  the order in which logs are sent does not matter if their places differ, and the entries of
  earlier logs come before those of later ones, whichever were sent first.
-/

namespace BridgeWatch

/-- Where a log stands: its block, and its position within the block. -/
def LogEntry.place (e : LogEntry) : ℕ ×ₗ ℕ := toLex (e.height.toNat, e.index.toNat)

namespace Rpc

/-! ## What a log makes -/

namespace RawLog

/-- A log makes an entry: it was not removed, and it names its block and its transaction. -/
def IsKept (l : RawLog) : Prop :=
  l.removed ≠ some true ∧ l.blockNumber.isSome ∧ l.transactionHash.isSome

instance (l : RawLog) : Decidable l.IsKept := inferInstanceAs (Decidable (_ ∧ _ ∧ _))

/-- The position of a log within its block: the low 64 bits of what was sent, or zero. -/
def position (l : RawLog) : ℕ := l.logIndex.elim 0 fun n => n.word.toNat % 2 ^ 64

/-- Where a log stands that names its block. -/
def place (l : RawLog) : ℕ ×ₗ ℕ := toLex (l.blockNumber.elim 0 (·.toNat), l.position)

/-- The entry that a log makes says what the log says. -/
structure Makes (l : RawLog) (e : LogEntry) : Prop where
  height : l.blockNumber = some e.height
  transaction : l.transactionHash = some e.transaction
  topic : e.topic = l.topics.head?
  payload : e.payload = l.data
  contract : e.contract = l.address
  index : e.index.toNat = l.position

theorem Makes.place_eq {l : RawLog} {e : LogEntry} (h : l.Makes e) : l.place = e.place := by
  rw [place, LogEntry.place, h.height, h.index]
  rfl

theorem toNat_index (index : Option Amount) :
    ((index.map fun n => UInt64.ofNat (n.word.toNat % UInt64.size)).getD 0).toNat =
      index.elim 0 fun n => n.word.toNat % 2 ^ 64 := by
  cases index with
  | none => rfl
  | some n =>
    have hlt : n.word.toNat % UInt64.size < UInt64.size := Nat.mod_lt _ (by decide)
    exact UInt64.toNat_ofNat_of_lt hlt

/-- A log that is kept makes one entry, and no other log makes any. -/
theorem entry?_eq_some_iff {l : RawLog} {e : LogEntry} :
    l.entry? = some e ↔ l.IsKept ∧ l.Makes e := by
  unfold entry? IsKept
  by_cases hr : l.removed = some true
  · simp [hr]
  cases hb : l.blockNumber with
  | none => simp [hr]
  | some height =>
    cases ht : l.transactionHash with
    | none => simp [hr]
    | some transaction =>
      simp only [hr, if_false, Option.some.injEq]
      constructor
      · rintro rfl
        exact ⟨⟨hr, rfl, rfl⟩, hb, ht, rfl, rfl, rfl, toNat_index _⟩
      · rintro ⟨-, m⟩
        obtain rfl : height = e.height := Option.some.inj (hb.symm.trans m.height)
        obtain rfl : transaction = e.transaction := Option.some.inj (ht.symm.trans m.transaction)
        have hindex : (l.logIndex.map fun n =>
            UInt64.ofNat (n.word.toNat % UInt64.size)).getD 0 = e.index :=
          UInt64.toNat_inj.1 ((toNat_index _).trans m.index.symm)
        rw [← m.topic, ← m.payload, ← m.contract, hindex]

theorem exists_entry?_iff (l : RawLog) : (∃ e, l.entry? = some e) ↔ l.IsKept := by
  constructor
  · rintro ⟨e, he⟩
    obtain ⟨hkept, -⟩ := entry?_eq_some_iff.1 he
    exact hkept
  · rintro ⟨hr, hb, ht⟩
    obtain ⟨height, hb⟩ := Option.isSome_iff_exists.1 hb
    obtain ⟨transaction, ht⟩ := Option.isSome_iff_exists.1 ht
    unfold entry?
    rw [if_neg hr, hb, ht]
    exact ⟨_, rfl⟩

end RawLog

/-- Each log that is kept makes its entry, in the order in which they were sent. -/
theorem forall₂_makes (logs : List RawLog) :
    List.Forall₂ RawLog.Makes (logs.filter fun l => decide l.IsKept)
      (logs.filterMap RawLog.entry?) := by
  induction logs with
  | nil => exact .nil
  | cons l logs ih =>
    cases he : l.entry? with
    | none =>
      have hkept : ¬l.IsKept := by
        rw [← l.exists_entry?_iff, he]
        simp
      rw [List.filterMap_cons_none he, List.filter_cons_of_neg (by simpa using hkept)]
      exact ih
    | some e =>
      obtain ⟨hkept, hmakes⟩ := RawLog.entry?_eq_some_iff.1 he
      rw [List.filterMap_cons_some he, List.filter_cons_of_pos (by simpa using hkept)]
      exact .cons hmakes ih

/-! ## The order of entries -/

/-- The entries that stand at a place. -/
def entriesAt (place : ℕ ×ₗ ℕ) (es : List LogEntry) : List LogEntry :=
  es.filter fun e => decide (e.place = place)

@[simp]
theorem mem_entriesAt {place : ℕ ×ₗ ℕ} {es : List LogEntry} {e : LogEntry} :
    e ∈ entriesAt place es ↔ e ∈ es ∧ e.place = place := by
  simp [entriesAt]

theorem entriesAt_append (place : ℕ ×ₗ ℕ) (es fs : List LogEntry) :
    entriesAt place (es ++ fs) = entriesAt place es ++ entriesAt place fs :=
  List.filter_append ..

theorem entriesAt_cons (place : ℕ ×ₗ ℕ) (e : LogEntry) (es : List LogEntry) :
    entriesAt place (e :: es) =
      if e.place = place then e :: entriesAt place es else entriesAt place es := by
  rw [entriesAt, List.filter_cons]
  simp only [decide_eq_true_eq]
  rfl

/-- Entries that stand at different places may change sides. -/
theorem entriesAt_append_comm {es fs : List LogEntry}
    (apart : ∀ e ∈ es, ∀ f ∈ fs, e.place ≠ f.place) (place : ℕ ×ₗ ℕ) :
    entriesAt place (es ++ fs) = entriesAt place (fs ++ es) := by
  rw [entriesAt_append, entriesAt_append]
  cases hes : entriesAt place es with
  | nil => rw [List.append_nil, List.nil_append]
  | cons e es' =>
    obtain ⟨he, rfl⟩ := mem_entriesAt.1 (hes ▸ List.mem_cons_self : e ∈ entriesAt place es)
    have hfs : entriesAt e.place fs = [] := by
      refine List.eq_nil_iff_forall_not_mem.2 ?_
      intro f hf
      rw [mem_entriesAt] at hf
      exact apart e he f hf.1 hf.2.symm
    rw [hfs, List.append_nil, List.nil_append]

/-- Entries were brought into the order of their places, and left in their order within a place. -/
structure Arranges (es sorted : List LogEntry) : Prop where
  perm : sorted.Perm es
  ordered : sorted.Pairwise fun a b => a.place ≤ b.place
  stable : ∀ place, entriesAt place sorted = entriesAt place es

theorem placedBefore_iff {a b : LogEntry} : placedBefore a b = true ↔ a.place ≤ b.place := by
  simp only [placedBefore, LogEntry.place, Prod.Lex.toLex_le_toLex, Bool.or_eq_true,
    Bool.and_eq_true, decide_eq_true_eq, beq_iff_eq, UInt64.lt_iff_toNat_lt,
    UInt64.le_iff_toNat_le, UInt64.toNat_inj]

theorem arranges_mergeSort (es : List LogEntry) : Arranges es (es.mergeSort placedBefore) := by
  have trans (a b c : LogEntry) (hab : placedBefore a b = true) (hbc : placedBefore b c = true) :
      placedBefore a c = true :=
    placedBefore_iff.2 ((placedBefore_iff.1 hab).trans (placedBefore_iff.1 hbc))
  have total (a b : LogEntry) : (placedBefore a b || placedBefore b a) = true := by
    rw [Bool.or_eq_true, placedBefore_iff, placedBefore_iff]
    exact le_total a.place b.place
  have hperm := List.mergeSort_perm es placedBefore
  refine ⟨hperm, (List.pairwise_mergeSort trans total es).imp placedBefore_iff.1, ?_⟩
  intro place
  -- The entries of one place are in order as they stand, so sorting keeps them as a sublist.
  have hsame : (entriesAt place es).Pairwise fun a b => placedBefore a b = true := by
    refine List.pairwise_of_forall_mem_list ?_
    intro a ha b hb
    rw [mem_entriesAt] at ha hb
    exact placedBefore_iff.2 (ha.2.trans hb.2.symm).le
  have hsub : (entriesAt place (entriesAt place es)).Sublist
      (entriesAt place (es.mergeSort placedBefore)) :=
    (List.sublist_mergeSort trans total hsame List.filter_sublist).filter _
  have htwice : entriesAt place (entriesAt place es) = entriesAt place es := by
    simp [entriesAt]
  rw [htwice] at hsub
  exact (hsub.eq_of_length (hperm.filter _).length_eq.symm).symm

theorem mem_iff_of_entriesAt_eq {l l' : List LogEntry}
    (h : ∀ place, entriesAt place l = entriesAt place l') (e : LogEntry) : e ∈ l ↔ e ∈ l' := by
  simpa using congrArg (e ∈ ·) (h e.place)

/-- Entries in the order of their places are determined by the entries of each place. -/
theorem eq_of_entriesAt_eq {l l' : List LogEntry} (hl : l.Pairwise fun a b => a.place ≤ b.place)
    (hl' : l'.Pairwise fun a b => a.place ≤ b.place)
    (h : ∀ place, entriesAt place l = entriesAt place l') : l = l' := by
  have hmem := mem_iff_of_entriesAt_eq h
  induction l generalizing l' with
  | nil =>
    refine (List.eq_nil_iff_forall_not_mem.2 ?_).symm
    intro e he
    cases (hmem e).2 he
  | cons a l ih =>
    cases l' with
    | nil => cases (hmem a).1 List.mem_cons_self
    | cons b l' =>
      rw [List.pairwise_cons] at hl hl'
      -- Both heads stand at the least place, so each is the first entry of that place.
      have hba : b.place ≤ a.place := by
        rcases List.mem_cons.1 ((hmem a).1 List.mem_cons_self) with rfl | ha
        · exact le_rfl
        · exact hl'.1 a ha
      have hab : a.place ≤ b.place := by
        rcases List.mem_cons.1 ((hmem b).2 List.mem_cons_self) with rfl | hb
        · exact le_rfl
        · exact hl.1 b hb
      have hfirst := h a.place
      rw [entriesAt_cons, entriesAt_cons, if_pos rfl, if_pos (hba.antisymm hab)] at hfirst
      obtain ⟨rfl, -⟩ := List.cons.inj hfirst
      have hrest : ∀ place, entriesAt place l = entriesAt place l' := by
        intro place
        have hplace := h place
        rw [entriesAt_cons, entriesAt_cons] at hplace
        split at hplace
        · exact (List.cons.inj hplace).2
        · exact hplace
      rw [ih hl.2 hl'.2 hrest (mem_iff_of_entriesAt_eq hrest)]

namespace Arranges

variable {es fs l m : List LogEntry}

/-- Two lists with the same entries at each place are arranged alike. -/
theorem eq_of_entriesAt_eq (h : Arranges es l) (h' : Arranges fs m)
    (same : ∀ place, entriesAt place es = entriesAt place fs) : l = m :=
  Rpc.eq_of_entriesAt_eq h.ordered h'.ordered fun place =>
    (h.stable place).trans ((same place).trans (h'.stable place).symm)

/-- Entries at different places are arranged alike in whichever order they were. -/
theorem eq_of_perm (h : Arranges es l) (h' : Arranges fs m) (hperm : es.Perm fs)
    (distinct : (es.map LogEntry.place).Nodup) : l = m := by
  have hl : (l.map LogEntry.place).Nodup := (h.perm.map _).nodup_iff.2 distinct
  have hlm : l.Perm m := h.perm.trans (hperm.trans h'.perm.symm)
  refine hlm.eq_of_pairwise ?_ h.ordered h'.ordered
  intro a b ha hb hab hba
  exact List.inj_on_of_nodup_map hl ha (hlm.mem_iff.2 hb) (hab.antisymm hba)

/-- Entries of which some stand before all others are arranged apart. -/
theorem append (h : Arranges es l) (h' : Arranges fs m)
    (before : ∀ e ∈ es, ∀ f ∈ fs, e.place < f.place) : Arranges (es ++ fs) (l ++ m) where
  perm := h.perm.append h'.perm
  ordered := by
    refine List.pairwise_append.2 ⟨h.ordered, h'.ordered, ?_⟩
    intro e he f hf
    exact (before e (h.perm.mem_iff.1 he) f (h'.perm.mem_iff.1 hf)).le
  stable place := by
    rw [entriesAt_append, entriesAt_append, h.stable, h'.stable]

end Arranges

/-! ## The entries of logs -/

/-- Entries stand where the logs stand that make them. -/
theorem map_place_eq {logs : List RawLog} {es : List LogEntry}
    (h : List.Forall₂ RawLog.Makes logs es) :
    es.map LogEntry.place = logs.map RawLog.place := by
  induction h with
  | nil => rfl
  | cons makes _ ih => rw [List.map_cons, List.map_cons, ih, makes.place_eq]

theorem exists_kept_of_mem {logs : List RawLog} {e : LogEntry}
    (h : e ∈ logs.filterMap RawLog.entry?) : ∃ l ∈ logs, l.IsKept ∧ l.place = e.place := by
  obtain ⟨l, hl, he⟩ := List.mem_filterMap.1 h
  obtain ⟨hkept, hmakes⟩ := RawLog.entry?_eq_some_iff.1 he
  exact ⟨l, hl, hkept, hmakes.place_eq⟩

/-- **Making entries of logs loses, invents and disorders nothing.** Each log that is kept makes one
entry, which says what the log says, and no other log makes any; the entries are in the order of
their places, and those of one place in the order in which they were sent. So if the places differ,
the order in which the logs were sent does not matter; and the entries of logs that stand before all
of some others come before those of the others, whichever were sent first. -/
theorem entriesOfLogs_lossless (logs : List RawLog) :
    (∃ es, List.Forall₂ RawLog.Makes (logs.filter fun l => decide l.IsKept) es ∧
      Arranges es (entriesOfLogs logs)) ∧
    (((logs.filter fun l => decide l.IsKept).map RawLog.place).Nodup →
      ∀ logs' : List RawLog, logs'.Perm logs → entriesOfLogs logs' = entriesOfLogs logs) ∧
    ∀ others : List RawLog,
      (∀ l ∈ logs, l.IsKept → ∀ m ∈ others, m.IsKept → l.place < m.place) →
        entriesOfLogs (logs ++ others) = entriesOfLogs logs ++ entriesOfLogs others ∧
        entriesOfLogs (others ++ logs) = entriesOfLogs logs ++ entriesOfLogs others := by
  have arranges (logs : List RawLog) :
      Arranges (logs.filterMap RawLog.entry?) (entriesOfLogs logs) := arranges_mergeSort _
  refine ⟨⟨_, forall₂_makes logs, arranges logs⟩, ?_, ?_⟩
  · intro distinct logs' hperm
    rw [← map_place_eq (forall₂_makes logs)] at distinct
    exact ((arranges logs).eq_of_perm (arranges logs') (hperm.symm.filterMap _) distinct).symm
  · intro others before
    have hbefore : ∀ e ∈ logs.filterMap RawLog.entry?, ∀ f ∈ others.filterMap RawLog.entry?,
        e.place < f.place := by
      intro e he f hf
      obtain ⟨l, hl, hkept, hle⟩ := exists_kept_of_mem he
      obtain ⟨m, hm, hkept', hmf⟩ := exists_kept_of_mem hf
      exact hle ▸ hmf ▸ before l hl hkept m hm hkept'
    have hboth := (arranges logs).append (arranges others) hbefore
    refine ⟨(arranges (logs ++ others)).eq_of_entriesAt_eq hboth ?_,
      (arranges (others ++ logs)).eq_of_entriesAt_eq hboth ?_⟩
    · intro place
      rw [List.filterMap_append]
    · intro place
      rw [List.filterMap_append]
      exact (entriesAt_append_comm (fun e he f hf => (hbefore e he f hf).ne) place).symm

/-- A log of a block. -/
def RawLog.sample (block : UInt64) : RawLog := ⟨⟨0⟩, [], [], some block, some ⟨0⟩, none, none⟩

/-- Two logs of the same place in different blocks, sent in either order. -/
theorem entriesOfLogs_lossless_sampleBlocks :
    entriesOfLogs ([.sample 4, .sample 4] ++ [.sample 5]) =
      entriesOfLogs [.sample 4, .sample 4] ++ entriesOfLogs [.sample 5] ∧
    entriesOfLogs ([.sample 5] ++ [.sample 4, .sample 4]) =
      entriesOfLogs [.sample 4, .sample 4] ++ entriesOfLogs [.sample 5] := by
  obtain ⟨-, -, h⟩ := entriesOfLogs_lossless [.sample 4, .sample 4]
  refine h [.sample 5] ?_
  decide

end Rpc

end BridgeWatch
