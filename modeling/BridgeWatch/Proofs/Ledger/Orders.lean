import BridgeWatch.Proofs.Observer.Sending
import BridgeWatch.Proofs.Schema.Acceptance
import BridgeWatch.Proofs.Words

/-!
# Transfers read back from their orders

An order for a transfer is nothing but texts and a height. `TransferOrder.details?` reads the
transfer back from it.

* `TransferDetails.details?_order_of_lower`: the transfer is read back as it was, but observed on
  its source chain; the sender may be written in any case.
* `provenance_of_decodeEntry`: a decoded event was observed where its log is, and a transfer among
  them opens on that chain.
* `Observer.orders_lossless`: what this means for events and for the orders that a tick sends.
-/

namespace BridgeWatch

/-- Reads the transfer that an order is for, as observed on its source chain. -/
def TransferOrder.details? (order : TransferOrder) : Option TransferDetails := do
  let sender ← Json.address? (.str order.sender)
  let amount ← Amount.ofText? order.amount
  let message ← Json.bytes? (.str order.message)
  let transaction ← Json.hash? (.str order.inTransaction)
  return {
    sender := sender
    sourceChain := order.senderChain
    recipient := order.recipient
    amount := amount
    destinationChain := order.recipientChain
    message := message
    provenance := ⟨order.senderChain, transaction, order.inHeight⟩ }

namespace TransferDetails

variable {t t' : TransferDetails}

/-- A transfer as observed on its source chain. -/
def atSource (t : TransferDetails) : TransferDetails :=
  { t with provenance := { t.provenance with chain := t.sourceChain } }

theorem atSource_eq_self (h : t.sourceChain = t.provenance.chain) : t.atSource = t := by
  have hp : { t.provenance with chain := t.sourceChain } = t.provenance := by rw [h]
  rw [atSource, hp]

/-- **A transfer is read back from its order**, in whatever case the sender is written. -/
theorem details?_order_of_lower {digits : List Char}
    (h : digits.map Char.toLower = t.sender.digits) :
    { t.order with sender := Text.Hex.marked digits }.details? = some t.atSource := by
  have hsender := Json.address?_marked h
  have hamount := t.amount.ofText?_text
  have hmessage := Json.bytes?_prefixed t.message
  have htransaction := Json.hash?_text t.provenance.transaction
  simp only [TransferOrder.details?, order, hsender, hamount, hmessage, htransaction]
  rfl

theorem details?_order (t : TransferDetails) : t.order.details? = some t.atSource :=
  details?_order_of_lower t.sender.lower_checksumDigits

/-- Different transfers that were observed on their source chains have different orders. -/
theorem eq_of_order_eq (h : t.sourceChain = t.provenance.chain)
    (h' : t'.sourceChain = t'.provenance.chain) (ho : t.order = t'.order) : t = t' := by
  have hread := t'.details?_order
  rw [← ho, t.details?_order, atSource_eq_self h, atSource_eq_self h'] at hread
  exact Option.some.inj hread

end TransferDetails

/-- The events that have orders. -/
theorem Event.order_eq_ok_iff {event : Event} {order : TransferOrder} :
    event.order = .ok order ↔ ∃ t, (event = .deposit t ∨ event = .burn t) ∧ t.order = order := by
  constructor
  · intro h
    cases event with
    | deposit t => exact ⟨t, .inl rfl, Except.ok.inj h⟩
    | burn t => exact ⟨t, .inr rfl, Except.ok.inj h⟩
    | release | mintConfirmation => cases h
  · rintro ⟨t, rfl | rfl, rfl⟩ <;> rfl

/-! ## Decoded events -/

/-- A transfer was observed on its source chain. -/
def Event.IsAtSource : Event → Prop
  | deposit t | burn t => t.sourceChain = t.provenance.chain
  | release _ | mintConfirmation _ _ => True

theorem provenance_of_readTransfer {provenance : Provenance} {s s' : FieldSource}
    {t : TransferDetails} (h : readTransfer provenance s = .ok (t, s')) :
    t.provenance = provenance ∧ t.sourceChain = provenance.chain := by
  obtain ⟨⟨who, s₁⟩, -, h⟩ := exists_of_bind_eq_ok h
  obtain ⟨⟨to_, s₂⟩, -, h⟩ := exists_of_bind_eq_ok h
  obtain ⟨⟨value, s₃⟩, -, h⟩ := exists_of_bind_eq_ok h
  obtain ⟨⟨destination, s₄⟩, -, h⟩ := exists_of_bind_eq_ok h
  obtain ⟨⟨message, s₅⟩, -, h⟩ := exists_of_bind_eq_ok h
  cases h
  exact ⟨rfl, rfl⟩

theorem provenance_of_readPayout {provenance : Provenance} {s s' : FieldSource}
    {p : PayoutDetails} (h : readPayout provenance s = .ok (p, s')) :
    p.provenance = provenance := by
  obtain ⟨⟨to_, s₁⟩, -, h⟩ := exists_of_bind_eq_ok h
  obtain ⟨⟨value, s₂⟩, -, h⟩ := exists_of_bind_eq_ok h
  cases h
  rfl

/-- The fields of an event are read as those of one that was observed at the given place. -/
theorem provenance_of_readEvent {kind : EventKind} {provenance : Provenance} {s s' : FieldSource}
    {event : Event} (h : readEvent kind provenance s = .ok (event, s')) :
    event.provenance = provenance ∧ event.IsAtSource := by
  cases kind with
  | deposit | burn =>
    obtain ⟨⟨t, s₁⟩, hr, h⟩ := exists_of_map_eq_ok h
    cases h
    obtain ⟨hp, hc⟩ := provenance_of_readTransfer hr
    exact ⟨hp, hc.trans (congrArg Provenance.chain hp).symm⟩
  | release =>
    obtain ⟨⟨p, s₁⟩, hr, h⟩ := exists_of_map_eq_ok h
    cases h
    exact ⟨provenance_of_readPayout hr, trivial⟩
  | mintConfirmation =>
    obtain ⟨⟨p, s₁⟩, hr, h⟩ := exists_of_bind_eq_ok h
    obtain ⟨⟨hash, s₂⟩, -, h⟩ := exists_of_bind_eq_ok h
    cases h
    exact ⟨provenance_of_readPayout hr, trivial⟩

/-- **A decoded event was observed where its log is**, and a transfer among them opens there. -/
theorem provenance_of_decodeEntry {chain : ChainId} {schema : Schema} {entry : LogEntry}
    {event : Event} (h : decodeEntry chain schema entry = .ok event) :
    event.provenance = entry.provenance chain ∧ event.IsAtSource := by
  unfold decodeEntry at h
  split at h
  · cases h
  · split at h
    · cases h
    · unfold decodeAs at h
      split at h
      · cases h
      · split at h
        · cases h
        · rename_i hread
          cases h
          exact provenance_of_readEvent hread

/-! ## What a tick sends -/

namespace Observer

variable {o : Observer}

/-- An order is sent for a log that decodes to a transfer. -/
theorem order_of_submission? {entry : LogEntry} {order : TransferOrder}
    (h : o.submission? entry = some (.transfer order)) :
    ∃ event, decodeEntry o.chain o.schema entry = .ok event ∧ event.order = .ok order := by
  unfold submission? at h
  split at h
  · rename_i event hd
    refine ⟨event, hd, ?_⟩
    have hs : RelayCall.forward.submission event = .ok (.transfer order) := by
      obtain ⟨s, hs⟩ := RelayCall.exists_submission event
      rw [hs] at h
      exact hs.trans (congrArg Except.ok (Option.some.inj h))
    cases event with
    | deposit t | burn t =>
      have horder : Submission.transfer t.order = .transfer order := Except.ok.inj hs
      rw [Submission.transfer.inj horder.symm]
      rfl
    | release | mintConfirmation => cases hs
  · cases h

/-- An order that is sent for a log is under the chain of the observer and names the transaction
and the height of the log. -/
theorem place_of_submission? {entry : LogEntry} {order : TransferOrder}
    (h : o.submission? entry = some (.transfer order)) :
    order.senderChain = o.chain ∧ order.inTransaction = entry.transaction.text ∧
      order.inHeight = entry.height := by
  obtain ⟨event, hd, ho⟩ := order_of_submission? h
  obtain ⟨hp, hs⟩ := provenance_of_decodeEntry hd
  obtain ⟨t, ht, rfl⟩ := Event.order_eq_ok_iff.1 ho
  have hprovenance : t.provenance = entry.provenance o.chain := by
    rcases ht with rfl | rfl <;> exact hp
  have hsource : t.sourceChain = t.provenance.chain := by
    rcases ht with rfl | rfl <;> exact hs
  rw [TransferDetails.order, hsource, hprovenance]
  exact ⟨rfl, rfl, rfl⟩

/-- **Orders lose nothing.** The order for a deposit or burn gives the transfer back, whatever its
fields are and in whatever case the sender is written. So events of one kind that were observed on
their source chains, as all decoded events were, have different orders if they are different. What a
tick has sent at any point is what the logs that it got decode to, from the first one on, and each
order among them is under the chain of the observer and names the transaction and the height of its
own log. -/
theorem orders_lossless :
    (∀ (t : TransferDetails) (event : Event), event = .deposit t ∨ event = .burn t →
      ∃ order, event.order = .ok order ∧ order.details? = some t.atSource ∧
        ∀ digits, digits.map Char.toLower = t.sender.digits →
          { order with sender := Text.Hex.marked digits }.details? = some t.atSource) ∧
    (∀ (event event' : Event) (order : TransferOrder), event.kind = event'.kind →
      event.IsAtSource → event'.IsAtSource → event.order = .ok order →
        event'.order = .ok order → event = event') ∧
    (∀ chain schema entry event, decodeEntry chain schema entry = .ok event →
      event.IsAtSource) ∧
    ∀ (o : Observer) (v : View) (es : List TickEvent) (t : TickStep),
      o.Trace (o.startTick v) es t →
        TickEvent.submissions es ++ t.pending <+:
          (TickEvent.logs es).filterMap o.submission? ∧
        ∀ entry order, o.submission? entry = some (.transfer order) →
          order.senderChain = o.chain ∧ order.inTransaction = entry.transaction.text ∧
            order.inHeight = entry.height := by
  refine ⟨?_, ?_, ?_, ?_⟩
  · intro t event he
    exact ⟨t.order, Event.order_eq_ok_iff.2 ⟨t, he, rfl⟩, t.details?_order,
      fun _ => TransferDetails.details?_order_of_lower⟩
  · intro event event' order hkind hs hs' ho ho'
    obtain ⟨t, ht, rfl⟩ := Event.order_eq_ok_iff.1 ho
    obtain ⟨t', ht', horder⟩ := Event.order_eq_ok_iff.1 ho'
    rcases ht with rfl | rfl <;> rcases ht' with rfl | rfl
    · rw [TransferDetails.eq_of_order_eq hs hs' horder.symm]
    · cases hkind
    · cases hkind
    · rw [TransferDetails.eq_of_order_eq hs hs' horder.symm]
  · intro chain schema entry event hd
    exact (provenance_of_decodeEntry hd).2
  · intro o v es t run
    exact ⟨run.sent_prefix, fun _ _ => place_of_submission?⟩

/-- An observer of a contract that emits deposits. -/
def sampleDepositor : Observer :=
  { sample .skip with
    schema := ⟨[⟨.deposit, "LockSend", [.address, .string, .uint 256, .string, .bytes],
      "LockSend(address,string,uint256,string,bytes)", ⟨1⟩⟩]⟩ }

/-- A transfer that the observer decodes from a log. -/
def sampleTransfer : TransferDetails where
  sender := ⟨42⟩
  sourceChain := ⟨"sample"⟩
  recipient := "r"
  amount := ⟨5⟩
  destinationChain := ⟨"d"⟩
  message := [1, 2]
  provenance := ⟨⟨"sample"⟩, ⟨3⟩, 7⟩

/-- The log of the transfer. -/
def sampleLog : LogEntry :=
  { LogEntry.sample with
    transaction := ⟨3⟩
    payload := Abi.encode [.address ⟨42⟩, .string ['r'], .uint ⟨5⟩, .string ['d'], .bytes [1, 2]] }

set_option maxRecDepth 8000 in
theorem decodeEntry_sampleLog : decodeEntry sampleDepositor.chain sampleDepositor.schema sampleLog =
    .ok (.deposit sampleTransfer) := rfl

theorem classify_sampleLog : sampleDepositor.classify sampleLog =
    .submitted (.deposit sampleTransfer) (.transfer sampleTransfer.order) := by
  rw [classify, decodeEntry_sampleLog]
  rfl

theorem trace_sampleLog (v : View) : sampleDepositor.Trace
    (sampleDepositor.resumeTick v (.fetch ⟨6, 8⟩) (.ok [sampleLog])) []
    (.waiting (.relay ⟨6, 8⟩ .zero (.deposit sampleTransfer) (.transfer sampleTransfer.order) [])
      (v.setState .applying)) := by
  simp only [resumeTick, afterFetch, relayEntries, classify_sampleLog]
  exact .refl _

/-- The tick that gets the log waits with the order for the transfer, from which the transfer is
read back. -/
theorem orders_lossless_sampleTransfer :
    (∃ order, (Event.deposit sampleTransfer).order = .ok order ∧
      order.details? = some sampleTransfer ∧
      { order with sender := "0x000000000000000000000000000000000000002A" }.details? =
        some sampleTransfer) ∧
    Event.deposit sampleTransfer = .deposit sampleTransfer.atSource ∧
    sampleTransfer.order.inTransaction = (Hash.mk 3).text ∧
    ∃ es t, sampleDepositor.Trace
        (sampleDepositor.startTick (sampleDepositor.initialView.override ⟨"sample"⟩ 5)) es t ∧
      TickEvent.submissions es ++ t.pending = [.transfer sampleTransfer.order] ∧
      TickEvent.submissions es ++ t.pending <+:
        (TickEvent.logs es).filterMap sampleDepositor.submission? := by
  obtain ⟨hread, hinjective, hdecoded, hsent⟩ := orders_lossless
  obtain ⟨order, ho, hd, hcase⟩ := hread sampleTransfer _ (.inl rfl)
  have hlower : "000000000000000000000000000000000000002A".toList.map Char.toLower =
      sampleTransfer.sender.digits := by decide
  have hsource : (Event.deposit sampleTransfer).IsAtSource :=
    hdecoded _ _ _ _ decodeEntry_sampleLog
  have run : sampleDepositor.Trace
      (sampleDepositor.startTick (sampleDepositor.initialView.override ⟨"sample"⟩ 5))
      [.answered .head (.ok 8), .answered (.logs ⟨2⟩ ⟨6, 8⟩) (.ok [sampleLog])] _ :=
    .answered (p := .head 5) (.ok 8)
      (.answered (p := .fetch ⟨6, 8⟩) (.ok [sampleLog]) (trace_sampleLog _))
  obtain ⟨hinOrder, hplace⟩ := hsent _ _ _ _ run
  obtain ⟨-, htransaction, -⟩ := hplace _ _ (submission?_of_submitted classify_sampleLog)
  refine ⟨⟨order, ho, hd, hcase _ hlower⟩, hinjective _ _ _ rfl hsource hsource ho ho,
    htransaction, _, _, run, rfl, hinOrder⟩

end Observer

end BridgeWatch
