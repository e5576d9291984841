import BridgeWatch.Ledger.Submission
import BridgeWatch.Proofs.Words

/-!
# Which payouts the ledger can tell apart

The ledger takes submissions that look the same for one. A notice has no field for the chain, and
the notice of a release names no transaction, so payouts can look the same that are not.

* `Event.SameReceipt`: the payouts of which the ledger is told the same.
* `Event.notices_differ`: the notices of two payouts differ unless they are such. Payouts of
  different transactions have different notices if one of them is a mint confirmation.
* `Event.notices_merge`: two releases of different transactions, and two mint confirmations on
  different chains, that have the same notice.
-/

namespace BridgeWatch

theorem Hash.text_ne_empty (h : Hash) : h.text ≠ "" := by
  intro hempty
  have hlist := congrArg String.toList hempty
  rw [text, Text.Hex.marked, String.toList_ofList] at hlist
  cases hlist

/-- Payouts of one amount to one recipient, at one height. -/
structure PayoutDetails.Alike (p p' : PayoutDetails) : Prop where
  recipient : p.recipient = p'.recipient
  amount : p.amount = p'.amount
  height : p.provenance.height = p'.provenance.height

namespace Event

/-- The ledger is told the same of two events. -/
inductive SameReceipt : Event → Event → Prop
  | release {p p' : PayoutDetails} (alike : p.Alike p') : SameReceipt (release p) (release p')
  | mintConfirmation {p p' : PayoutDetails} (alike : p.Alike p')
      (transaction : p.provenance.transaction = p'.provenance.transaction) (correlation : Hash) :
      SameReceipt (mintConfirmation p correlation) (mintConfirmation p' correlation)

variable {e e' : Event}

/-- Releases and mint confirmations have notices. -/
theorem exists_notice (h : e.kind.isTransfer = false) : ∃ n, e.notice = .ok n := by
  cases e with
  | deposit | burn => cases h
  | release | mintConfirmation => exact ⟨_, rfl⟩

/-- **Two events have one notice exactly when the ledger is told the same of them.** -/
theorem notice_eq_iff {n n' : ReceiptNotice} (h : e.notice = .ok n) (h' : e'.notice = .ok n') :
    n = n' ↔ SameReceipt e e' := by
  constructor
  · rintro rfl
    have heq : e.notice = e'.notice := h.trans h'.symm
    cases e with
    | deposit | burn => cases h
    | release p =>
      cases e' with
      | deposit | burn => cases h'
      | release p' =>
        simp only [notice, Except.ok.injEq, ReceiptNotice.mk.injEq, true_and] at heq
        obtain ⟨hheight, hamount, hrecipient⟩ := heq
        exact .release ⟨hrecipient, Amount.text_injective hamount, hheight⟩
      | mintConfirmation p' hash =>
        exact absurd (ReceiptNotice.mk.inj (Except.ok.inj heq)).1.symm hash.text_ne_empty
    | mintConfirmation p hash =>
      cases e' with
      | deposit | burn => cases h'
      | release p' =>
        exact absurd (ReceiptNotice.mk.inj (Except.ok.inj heq)).1 hash.text_ne_empty
      | mintConfirmation p' hash' =>
        simp only [notice, Except.ok.injEq, ReceiptNotice.mk.injEq] at heq
        obtain ⟨hhash, htransaction, hheight, hamount, hrecipient⟩ := heq
        rw [Hash.text_injective hhash]
        exact .mintConfirmation ⟨hrecipient, Amount.text_injective hamount, hheight⟩
          (Hash.text_injective htransaction) hash'
  · intro hsame
    have hnotice : e.notice = e'.notice := by
      cases hsame with
      | release alike => rw [notice, notice, alike.recipient, alike.amount, alike.height]
      | mintConfirmation alike transaction correlation =>
        rw [notice, notice, alike.recipient, alike.amount, alike.height, transaction]
    rw [h, h'] at hnotice
    exact Except.ok.inj hnotice

/-- Events of which the ledger is told the same are releases, or are of one transaction. -/
theorem SameReceipt.release_or_transaction_eq (h : SameReceipt e e') :
    e.kind = .release ∧ e'.kind = .release ∨
      e.provenance.transaction = e'.provenance.transaction := by
  cases h with
  | release => exact .inl ⟨rfl, rfl⟩
  | mintConfirmation _ transaction => exact .inr transaction

/-- **Different transactions have different notices**, unless both events are releases. Exactly the
events of which the ledger is told the same have one notice. -/
theorem notices_differ (h : e.kind.isTransfer = false) (h' : e'.kind.isTransfer = false) :
    ∃ n n', e.notice = .ok n ∧ e'.notice = .ok n' ∧ (n = n' ↔ SameReceipt e e') ∧
      (e.provenance.transaction ≠ e'.provenance.transaction →
        e.kind = .mintConfirmation ∨ e'.kind = .mintConfirmation → n ≠ n') := by
  obtain ⟨n, hn⟩ := exists_notice h
  obtain ⟨n', hn'⟩ := exists_notice h'
  have hiff := notice_eq_iff hn hn'
  refine ⟨n, n', hn, hn', hiff, ?_⟩
  intro htransaction hmint heq
  rcases (hiff.1 heq).release_or_transaction_eq with ⟨hrelease, hrelease'⟩ | hsame
  · rw [hrelease, hrelease'] at hmint
    rcases hmint with hmint | hmint <;> cases hmint
  · exact htransaction hsame

/-- A payout on a chain, in a transaction. -/
def samplePayout (chain : String) (transaction : Hash) : PayoutDetails :=
  ⟨"r", ⟨5⟩, ⟨⟨chain⟩, transaction, 7⟩⟩

/-- A release and a mint confirmation of different transactions. -/
theorem notices_differ_sampleMint :
    ∃ n n', (release (samplePayout "c" ⟨1⟩)).notice = .ok n ∧
      (mintConfirmation (samplePayout "c" ⟨2⟩) ⟨3⟩).notice = .ok n' ∧ n ≠ n' := by
  have hrelease : (release (samplePayout "c" ⟨1⟩)).kind.isTransfer = false := rfl
  have hmint : (mintConfirmation (samplePayout "c" ⟨2⟩) ⟨3⟩).kind.isTransfer = false := rfl
  obtain ⟨n, n', hn, hn', -, hdiffer⟩ := notices_differ hrelease hmint
  exact ⟨n, n', hn, hn', hdiffer (by decide) (.inr rfl)⟩

/-- Two releases of different transactions have one notice, and so have two mint confirmations on
different chains. -/
theorem notices_merge :
    ((samplePayout "c" ⟨1⟩).provenance.transaction ≠ (samplePayout "c" ⟨2⟩).provenance.transaction ∧
      (release (samplePayout "c" ⟨1⟩)).notice = (release (samplePayout "c" ⟨2⟩)).notice) ∧
    (samplePayout "c" ⟨1⟩).provenance.chain ≠ (samplePayout "d" ⟨1⟩).provenance.chain ∧
      (mintConfirmation (samplePayout "c" ⟨1⟩) ⟨3⟩).notice =
        (mintConfirmation (samplePayout "d" ⟨1⟩) ⟨3⟩).notice :=
  ⟨⟨by decide, rfl⟩, by decide, rfl⟩

end Event

end BridgeWatch
