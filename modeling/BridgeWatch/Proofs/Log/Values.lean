import BridgeWatch.Log.Decode
import BridgeWatch.Proofs.Schema.Acceptance
import BridgeWatch.Proofs.Text.Blank
import Mathlib.Data.List.TakeWhile

/-!
# The values of an event

What the data of a log holds for an event (`EventValues`): a recipient is an account or a name, a
destination a number or a name, a message bytes or a text.

* `EventValues.event` is the event that they mean.
* `exists_values`: values of types that can carry the fields of a kind are those of an event of the
  kind.
* `readEvent_tokens`: the reader of fields gives that event and leaves no value unread, unless the
  destination is a name of nothing but white space.
-/

namespace BridgeWatch

open Abi (Token HasType)

/-! ## The values and their meaning -/

/-- What the data holds for a recipient. -/
inductive RecipientValue
  | account (a : Address)
  | name (cs : List Char)

namespace RecipientValue

/-- The value of the parameter. -/
def token : RecipientValue → Token
  | account a => .address a
  | name cs => .string cs

/-- The recipient: an account in checked mixed case, or a name as it is. -/
def text : RecipientValue → String
  | account a => a.checksum
  | name cs => String.ofList cs

end RecipientValue

/-- What the data holds for a destination chain. -/
inductive DestinationValue
  | number (n : Amount)
  | name (cs : List Char)

namespace DestinationValue

/-- The value of the parameter. -/
def token : DestinationValue → Token
  | number n => .uint n
  | name cs => .string cs

/-- The destination chain: a number in decimal, or a name without the white space around it. -/
def chain : DestinationValue → ChainId
  | number n => ⟨n.text⟩
  | name cs => ⟨String.ofList (Text.trim cs)⟩

/-- A name of nothing but white space. -/
def isBlank : DestinationValue → Bool
  | number _ => false
  | name cs => Text.isAllBlank cs

end DestinationValue

/-- What the data holds for a message. -/
inductive MessageValue
  | bytes (bs : Bytes)
  | text (cs : List Char)

namespace MessageValue

/-- The value of the parameter. -/
def token : MessageValue → Token
  | bytes bs => .bytes bs
  | text cs => .string cs

/-- The message: bytes as they are, or the UTF-8 of a text. -/
def content : MessageValue → Bytes
  | bytes bs => bs
  | text cs => Text.Utf8.encode cs

end MessageValue

/-- What the data holds for a deposit or burn. -/
structure TransferValues where
  sender : Address
  recipient : RecipientValue
  amount : Amount
  destination : DestinationValue
  message : MessageValue

/-- What the data holds for a release, and for a mint confirmation besides the hash. -/
structure PayoutValues where
  recipient : RecipientValue
  amount : Amount

/-- What the data holds for an event. -/
inductive EventValues
  | deposit (transfer : TransferValues)
  | burn (transfer : TransferValues)
  | release (payout : PayoutValues)
  | mintConfirmation (payout : PayoutValues) (correlation : Hash)

/-- The values of the parameters of a deposit or burn. -/
def TransferValues.tokens (t : TransferValues) : List Token :=
  [.address t.sender, t.recipient.token, .uint t.amount, t.destination.token, t.message.token]

/-- The transfer that the values mean. -/
def TransferValues.details (t : TransferValues) (provenance : Provenance) : TransferDetails where
  sender := t.sender
  sourceChain := provenance.chain
  recipient := t.recipient.text
  amount := t.amount
  destinationChain := t.destination.chain
  message := t.message.content
  provenance := provenance

/-- The values of the parameters of a release. -/
def PayoutValues.tokens (p : PayoutValues) : List Token := [p.recipient.token, .uint p.amount]

/-- The payout that the values mean. -/
def PayoutValues.details (p : PayoutValues) (provenance : Provenance) : PayoutDetails :=
  ⟨p.recipient.text, p.amount, provenance⟩

namespace EventValues

/-- The kind of the event. -/
def kind : EventValues → EventKind
  | deposit _ => .deposit
  | burn _ => .burn
  | release _ => .release
  | mintConfirmation _ _ => .mintConfirmation

/-- The values of the parameters. -/
def tokens : EventValues → List Token
  | deposit t | burn t => t.tokens
  | release p => p.tokens
  | mintConfirmation p h => p.tokens ++ [.fixedBytes h.bytes]

/-- The event that the values mean. -/
def event (provenance : Provenance) : EventValues → Event
  | deposit t => .deposit (t.details provenance)
  | burn t => .burn (t.details provenance)
  | release p => .release (p.details provenance)
  | mintConfirmation p h => .mintConfirmation (p.details provenance) h

/-- The destination is a name of nothing but white space. -/
def hasBlankDestination : EventValues → Bool
  | deposit t | burn t => t.destination.isBlank
  | release _ | mintConfirmation _ _ => false

theorem kind_event (v : EventValues) (provenance : Provenance) :
    (v.event provenance).kind = v.kind := by
  cases v <;> rfl

end EventValues

/-! ## Values that carry fields -/

/-- A value of a type that can carry a field. -/
def Field.Carries (f : Field) (v : Token) : Prop := ∃ t, f.accepts t = true ∧ HasType t v

theorem Field.sender_carries {v : Token} (h : Field.sender.Carries v) : ∃ a, v = .address a := by
  obtain ⟨t, ht, hv⟩ := h
  cases hv with
  | address a => exact ⟨a, rfl⟩
  | uint | string | bytes | fixedBytes => cases ht

theorem Field.recipient_carries {v : Token} (h : Field.recipient.Carries v) :
    ∃ r : RecipientValue, v = r.token := by
  obtain ⟨t, ht, hv⟩ := h
  cases hv with
  | address a => exact ⟨.account a, rfl⟩
  | string cs => exact ⟨.name cs, rfl⟩
  | uint | bytes | fixedBytes => cases ht

theorem Field.amount_carries {v : Token} (h : Field.amount.Carries v) : ∃ n, v = .uint n := by
  obtain ⟨t, ht, hv⟩ := h
  cases hv with
  | uint bits n => exact ⟨n, rfl⟩
  | address | string | bytes | fixedBytes => cases ht

theorem Field.chainRef_carries {v : Token} (h : Field.chainRef.Carries v) :
    ∃ d : DestinationValue, v = d.token := by
  obtain ⟨t, ht, hv⟩ := h
  cases hv with
  | uint bits n => exact ⟨.number n, rfl⟩
  | string cs => exact ⟨.name cs, rfl⟩
  | address | bytes | fixedBytes => cases ht

theorem Field.message_carries {v : Token} (h : Field.message.Carries v) :
    ∃ m : MessageValue, v = m.token := by
  obtain ⟨t, ht, hv⟩ := h
  cases hv with
  | bytes bs => exact ⟨.bytes bs, rfl⟩
  | string cs => exact ⟨.text cs, rfl⟩
  | address | uint | fixedBytes => cases ht

theorem Field.hash_carries {v : Token} (h : Field.hash.Carries v) :
    ∃ h : Hash, v = .fixedBytes h.bytes := by
  obtain ⟨t, ht, hv⟩ := h
  cases hv with
  | @fixedBytes size bs length =>
    have hbs : bs.length = 32 := length.trans (by simpa [Field.accepts] using ht)
    exact ⟨.ofBytes bs, by rw [Hash.bytes_ofBytes hbs]⟩
  | address | uint | string | bytes => cases ht

/-- Values of types that can carry some fields carry these fields. -/
theorem carries_of_hasTypes {fields : List Field} {types : List Abi.ParamType}
    {values : List Token}
    (hfields : List.Forall₂ (fun f t => Field.accepts f t = true) fields types)
    (hvalues : List.Forall₂ HasType types values) : List.Forall₂ Field.Carries fields values := by
  induction hfields generalizing values with
  | nil =>
    cases hvalues
    exact .nil
  | cons hf _ ih =>
    cases hvalues with
    | cons hv hvalues => exact .cons ⟨_, hf, hv⟩ (ih hvalues)

/-- **Values that carry the fields of a kind are those of an event of the kind.** -/
theorem exists_values {kind : EventKind} {values : List Token}
    (h : List.Forall₂ Field.Carries (fieldLayout kind) values) :
    ∃ v : EventValues, v.kind = kind ∧ v.tokens = values := by
  have transfer (h : List.Forall₂ Field.Carries
      [.sender, .recipient, .amount, .chainRef, .message] values) :
      ∃ t : TransferValues, t.tokens = values := by
    obtain _ | ⟨hs, _ | ⟨hr, _ | ⟨ha, _ | ⟨hd, _ | ⟨hm, _ | _⟩⟩⟩⟩⟩ := h
    obtain ⟨s, rfl⟩ := Field.sender_carries hs
    obtain ⟨r, rfl⟩ := Field.recipient_carries hr
    obtain ⟨a, rfl⟩ := Field.amount_carries ha
    obtain ⟨d, rfl⟩ := Field.chainRef_carries hd
    obtain ⟨m, rfl⟩ := Field.message_carries hm
    exact ⟨⟨s, r, a, d, m⟩, rfl⟩
  cases kind with
  | deposit =>
    obtain ⟨t, rfl⟩ := transfer h
    exact ⟨.deposit t, rfl, rfl⟩
  | burn =>
    obtain ⟨t, rfl⟩ := transfer h
    exact ⟨.burn t, rfl, rfl⟩
  | release =>
    obtain _ | ⟨hr, _ | ⟨ha, _ | _⟩⟩ := h
    obtain ⟨r, rfl⟩ := Field.recipient_carries hr
    obtain ⟨a, rfl⟩ := Field.amount_carries ha
    exact ⟨.release ⟨r, a⟩, rfl, rfl⟩
  | mintConfirmation =>
    obtain _ | ⟨hr, _ | ⟨ha, _ | ⟨hh, _ | _⟩⟩⟩ := h
    obtain ⟨r, rfl⟩ := Field.recipient_carries hr
    obtain ⟨a, rfl⟩ := Field.amount_carries ha
    obtain ⟨hash, rfl⟩ := Field.hash_carries hh
    exact ⟨.mintConfirmation ⟨r, a⟩ hash, rfl, rfl⟩

/-! ## Reading the values -/

namespace FieldReader

variable (n : Nat) (vs : List Token)

theorem sender_cons (a : Address) : sender ⟨n, .address a :: vs⟩ = .ok (a, ⟨n + 1, vs⟩) := rfl

theorem recipient_cons (r : RecipientValue) :
    recipient ⟨n, r.token :: vs⟩ = .ok (r.text, ⟨n + 1, vs⟩) := by
  cases r <;> rfl

theorem amount_cons (a : Amount) : amount ⟨n, .uint a :: vs⟩ = .ok (a, ⟨n + 1, vs⟩) := rfl

/-- The destination is read unless it is a name of nothing but white space. -/
theorem chainRef_cons (d : DestinationValue) : chainRef ⟨n, d.token :: vs⟩ =
    if d.isBlank then .error .emptyDestination else .ok (d.chain, ⟨n + 1, vs⟩) := by
  cases d with
  | number a => rfl
  | name cs =>
    simp only [chainRef, take, DestinationValue.token, ChainId.ofText?, String.toList_ofList]
    cases hb : Text.isAllBlank cs with
    | true =>
      rw [Text.trim_eq_nil_iff.2 hb]
      simp [DestinationValue.isBlank, hb]
    | false =>
      have hne : Text.trim cs ≠ [] := by simp [Text.trim_eq_nil_iff, hb]
      cases ht : Text.trim cs with
      | nil => exact absurd ht hne
      | cons c rest => simp [DestinationValue.isBlank, DestinationValue.chain, hb, ht]

theorem message_cons (m : MessageValue) :
    message ⟨n, m.token :: vs⟩ = .ok (m.content, ⟨n + 1, vs⟩) := by
  cases m <;> rfl

theorem hash_cons (h : Hash) : hash ⟨n, .fixedBytes h.bytes :: vs⟩ = .ok (h, ⟨n + 1, vs⟩) := by
  simp only [hash, take, Hash.length_bytes, if_true, Hash.ofBytes_bytes]

end FieldReader

open FieldReader in
theorem readTransfer_tokens (t : TransferValues) (provenance : Provenance) :
    readTransfer provenance ⟨0, t.tokens⟩ =
      if t.destination.isBlank then .error .emptyDestination
      else .ok (t.details provenance, ⟨5, []⟩) := by
  simp only [readTransfer, TransferValues.tokens, sender_cons, recipient_cons, amount_cons,
    chainRef_cons, bind, Except.bind]
  cases t.destination.isBlank with
  | true => rfl
  | false =>
    simp only [Bool.false_eq_true, if_false, message_cons]
    rfl

open FieldReader in
theorem readPayout_tokens (more : List Token) (p : PayoutValues) (provenance : Provenance) :
    readPayout provenance ⟨0, p.tokens ++ more⟩ = .ok (p.details provenance, ⟨2, more⟩) := by
  simp only [readPayout, PayoutValues.tokens, List.cons_append, List.nil_append, recipient_cons,
    amount_cons, bind, Except.bind]
  rfl

/-- **The reader of fields gives the event that the values mean** and leaves no value unread, unless
the destination is a name of nothing but white space. -/
theorem readEvent_tokens (v : EventValues) (provenance : Provenance) :
    readEvent v.kind provenance ⟨0, v.tokens⟩ =
      if v.hasBlankDestination then .error .emptyDestination
      else .ok (v.event provenance, ⟨v.tokens.length, []⟩) := by
  cases v with
  | deposit t =>
    change (readTransfer provenance ⟨0, t.tokens⟩).map _ = if t.destination.isBlank then _ else _
    rw [readTransfer_tokens]
    split <;> rfl
  | burn t =>
    change (readTransfer provenance ⟨0, t.tokens⟩).map _ = if t.destination.isBlank then _ else _
    rw [readTransfer_tokens]
    split <;> rfl
  | release p =>
    have h := readPayout_tokens [] p provenance
    rw [List.append_nil] at h
    simp only [readEvent, EventValues.kind, EventValues.tokens, h]
    rfl
  | mintConfirmation p hash =>
    simp only [readEvent, EventValues.kind, EventValues.tokens, readPayout_tokens, bind,
      Except.bind, FieldReader.hash_cons]
    rfl

end BridgeWatch
