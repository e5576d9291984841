import BridgeWatch.Deadline
import BridgeWatch.Proofs.Observer.ScanWindow
import BridgeWatch.Rpc.Connector

/-!
# What a connector answers

* `Connector.Admits` says that a window passes the guard of a connector, and that its size is
  computed exactly. The windows past a watermark do, up to the connector's range
  (`admits_of_next?`).
* `Connector.Gives` says what a connector answers when this or that becomes of its request. A head
  that is not given is a failed connection (`connection_of_gives_head`); logs that are not given are
  a failed connection too, or the node's reply refuses the range (`Rejects`,
  `connection_or_rejects_of_gives_logs`).
-/

namespace BridgeWatch

theorem withDeadline_eq_error {α : Type} {deadline work : Nat} {operation : String}
    {onTimeout : String → Fault} {result : Except Fault α} {f : Fault}
    (h : (withDeadline deadline work operation onTimeout result).1 = .error f) :
    result = .error f ∨ f = onTimeout (timeoutMessage operation deadline) := by
  unfold withDeadline at h
  split at h
  · exact .inl h
  · cases h
    exact .inr rfl

namespace Rpc

/-- What has come of a request is a reply of the node that refuses the range. -/
def Rejects (x : Http.Exchange) : Prop :=
  ∃ status body f, x = .replied status body ∧ readReply Connector.logs? x = .error f ∧
    isRangeRejection f.message.toList = true

/-- A reply that cannot be read as logs, in words that refuse the range, came from the node. -/
theorem rejects_of_readReply {x : Http.Exchange} {f : CallFault}
    (h : readReply Connector.logs? x = .error f)
    (hf : isRangeRejection f.message.toList = true) : Rejects x := by
  cases x with
  | replied status body => exact ⟨status, body, f, rfl, h, hf⟩
  | unanswered =>
    cases h
    have : isRangeRejection CallFault.unanswered.message.toList = false := by decide +kernel
    rw [this] at hf
    cases hf

namespace Connector

variable {c : Connector} {deadline : Nat} {x : Http.Exchange} {f : Fault} {w : Window}

/-! ## The guard -/

/-- A window passes the guard, and no step of the computation of its size leaves the words of 64
bits. -/
structure Admits (c : Connector) (w : Window) : Prop where
  passes : c.guardWindow w = .ok ()
  first_le : w.first ≤ w.last
  toNat_size : w.size.toNat = w.last.toNat - w.first.toNat + 1
  size_le : w.last.toNat - w.first.toNat + 1 ≤ c.maxRange.toNat

/-- The window past a watermark is admitted, if its limit is within the connector's range. -/
theorem admits_of_next? {watermark head limit : UInt64} (hone : 1 ≤ limit)
    (hlimit : limit ≤ c.maxRange) (h : Window.next? watermark head limit = some w) :
    c.Admits w := by
  have hfollows := (Window.follows_next? h).1
  have hsize : w.size ≤ c.maxRange := UInt64.le_trans (Window.size_next?_le hone h) hlimit
  have hexact : w.size.toNat = w.last.toNat - w.first.toNat + 1 := by
    have hlt := UInt64.lt_iff_toNat_lt.1 hfollows.lt_last
    rw [hfollows.toNat_size, hfollows.first_eq]
    omega
  refine ⟨?_, hfollows.first_le, hexact, hexact ▸ UInt64.le_iff_toNat_le.1 hsize⟩
  unfold guardWindow
  rw [if_neg (UInt64.not_lt.2 hfollows.first_le), if_neg (UInt64.not_lt.2 hsize)]

/-- The logs of a window that passes the guard are asked for, and are those of the reply. -/
theorem fetch_of_passes {σ : Type} {t : Http.Transport σ} {contract : Address} {s : σ}
    (hw : c.guardWindow w = .ok ()) : (c.fetch t contract w s).1 =
      ((readReply logs? (t.exchange (c.request "eth_getLogs" (logParams contract w)) s).1).mapError
        (c.fetchFault w)).map entriesOfLogs := by
  unfold fetch
  rw [hw]

/-! ## Answers -/

/-- What a connector replies when `x` becomes of its request, in time or not. The requests to the
ledger are not its own, and may get any reply. -/
def Gives (c : Connector) (deadline : Nat) (x : Http.Exchange) : (q : Request) → q.Reply → Prop
  | .head, reply => ∃ (σ : Type) (t : Http.Transport σ) (s : σ) (work : Nat),
    (t.exchange (c.request "eth_blockNumber" .null) s).1 = x ∧
      reply = (withDeadline deadline work "eth_blockNumber" (.connection c.chain)
        (c.head t s).1).1
  | .logs contract w, reply => ∃ (σ : Type) (t : Http.Transport σ) (s : σ) (work : Nat),
    (t.exchange (c.request "eth_getLogs" (logParams contract w)) s).1 = x ∧
      reply = (withDeadline deadline work "eth_getLogs" (.connection c.chain)
        (c.fetch t contract w s).1).1
  | .recordedHeight _, _ => True
  | .submit _, _ => True

/-- A head that is not given is a failed connection. -/
theorem connection_of_gives_head (h : c.Gives deadline x .head (.error f)) :
    ∃ message, f = .connection c.chain message := by
  obtain ⟨σ, t, s, work, -, hreply⟩ := h
  rcases withDeadline_eq_error hreply.symm with h | rfl
  · unfold head at h
    dsimp only at h
    cases hr : readReply Json.quantity? (t.exchange (c.request "eth_blockNumber" .null) s).1 with
    | ok height =>
      rw [hr] at h
      cases h
    | error cause =>
      rw [hr] at h
      cases h
      exact ⟨cause.message, rfl⟩
  · exact ⟨_, rfl⟩

/-- Logs that are not given are a failed connection, or the node has refused the range. -/
theorem connection_or_rejects_of_gives_logs {contract : Address} (hw : c.guardWindow w = .ok ())
    (h : c.Gives deadline x (.logs contract w) (.error f)) :
    (∃ message, f = .connection c.chain message) ∨
      (f = .rangeTooLarge c.chain w.first w.last c.maxRange ∧ Rejects x) := by
  obtain ⟨σ, t, s, work, hx, hreply⟩ := h
  rcases withDeadline_eq_error hreply.symm with h | rfl
  · rw [fetch_of_passes hw, hx] at h
    cases hr : readReply logs? x with
    | ok logs =>
      rw [hr] at h
      cases h
    | error cause =>
      rw [hr] at h
      obtain rfl : c.fetchFault w cause = f := Except.error.inj h
      unfold fetchFault
      split
      · rename_i hcause
        exact .inr ⟨rfl, rejects_of_readReply hr hcause⟩
      · exact .inl ⟨_, rfl⟩
  · exact .inl ⟨_, rfl⟩

end Connector

end Rpc

end BridgeWatch
