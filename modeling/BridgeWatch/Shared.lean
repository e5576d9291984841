import BridgeWatch.Ledger.Submission
import BridgeWatch.Metrics
import BridgeWatch.Watermark.Store

/-!
# What all observers share

The watermarks, the counts of relayed events and the metrics belong to all observers of a supervisor
together. This module holds them as one value, with the operations that change more than one of
them: a watermark and its gauge change together, and so do the count of a relayed event and its
counter.
-/

namespace BridgeWatch

/-- How many events of each kind the ledger has accepted, in numbers of any size. They stand for
counters of 64 bits, with which they agree as long as they are below `2 ^ 64`. -/
structure RelayCounts where
  deposit : Nat
  burn : Nat
  release : Nat
  mintConfirmation : Nat
  deriving DecidableEq, Repr, Inhabited

namespace RelayCounts

/-- No event accepted. -/
def zero : RelayCounts := ⟨0, 0, 0, 0⟩

/-- The count of a kind. -/
def get (c : RelayCounts) : EventKind → Nat
  | .deposit => c.deposit
  | .burn => c.burn
  | .release => c.release
  | .mintConfirmation => c.mintConfirmation

/-- Counts one more event of a kind. -/
def count (c : RelayCounts) : EventKind → RelayCounts
  | .deposit => { c with deposit := c.deposit + 1 }
  | .burn => { c with burn := c.burn + 1 }
  | .release => { c with release := c.release + 1 }
  | .mintConfirmation => { c with mintConfirmation := c.mintConfirmation + 1 }

/-- The kinds of which events were accepted, with their counts. -/
def entries (c : RelayCounts) : List (EventKind × Nat) :=
  EventKind.all.filterMap fun k => if c.get k = 0 then none else some (k, c.get k)

theorem get_count (c : RelayCounts) (k l : EventKind) :
    (c.count k).get l = c.get l + if l = k then 1 else 0 := by
  cases k <;> cases l <;> simp [count, get]

end RelayCounts

/-- What the observers of a supervisor share. -/
structure Shared where
  watermarks : WatermarkStore
  relayed : RelayCounts
  metrics : Metrics
  deriving DecidableEq, Repr, Inhabited

namespace Shared

/-- Nothing has happened yet. -/
def empty : Shared := ⟨.empty, .zero, .empty⟩

/-- The watermark of a chain. -/
def watermark? (s : Shared) (chain : ChainId) : Option UInt64 := s.watermarks.get? chain

/-- Sets the watermark of a chain and its gauge. -/
def setWatermark (s : Shared) (chain : ChainId) (height : UInt64) : Shared :=
  { s with
    watermarks := s.watermarks.set chain height
    metrics := s.metrics.gauge (.watermark chain) height }

/-- Moves the watermark of a chain forward, with its gauge. -/
def advance (s : Shared) (chain : ChainId) (height : UInt64) : Except Fault Shared :=
  match s.watermarks.advance chain height with
  | .error f => .error f
  | .ok w =>
    .ok { s with watermarks := w, metrics := s.metrics.gauge (.watermark chain) height }

/-- Overrides the watermark of a chain, with its gauge; gives the previous one. -/
def resync (s : Shared) (chain : ChainId) (height : UInt64) : Option UInt64 × Shared :=
  let (previous, w) := s.watermarks.resync chain height
  (previous, { s with watermarks := w, metrics := s.metrics.gauge (.watermark chain) height })

/-- Records the last head read from a chain. -/
def recordHead (s : Shared) (chain : ChainId) (head : UInt64) : Shared :=
  { s with metrics := s.metrics.gauge (.head chain) head }

/-- Counts one more of a metric. -/
def count (s : Shared) (m : Metric) : Shared := { s with metrics := s.metrics.count m }

/-- Counts an event that the ledger has accepted. -/
def recordRelayed (s : Shared) (event : Event) : Shared :=
  { s with
    relayed := s.relayed.count event.kind
    metrics := s.metrics.count (.eventsForwarded event.provenance.chain event.kind) }

/-- The height at which a chain starts by the ledger's answer: one that is known and not zero. An
answer that failed counts as unknown. -/
def recordedStart? : Except Fault UInt64 → Option UInt64
  | .ok height => if height = 0 then none else some height
  | .error _ => none

/-- Initializes the watermark of a chain by the ledger's answer or else by the chain's head, which
is read only then. Gives the height, and how often the head was read. -/
def initializeChain (s : Shared) (chain : ChainId) (recorded head : Except Fault UInt64) :
    Except Fault UInt64 × Nat × Shared :=
  match recordedStart? recorded with
  | some height => (.ok height, 0, s.setWatermark chain height)
  | none =>
    match head with
    | .ok height => (.ok height, 1, s.setWatermark chain height)
    | .error f => (.error f, 1, s)

end Shared

end BridgeWatch
