import BridgeWatch.Rpc.Connector
import BridgeWatch.Supervisor.Basic

/-!
# Starting observers

`Supervisor.start` sets an observer to work for every enabled chain of some settings, in the order
of their identifiers. It stops at the first chain whose connector or observer cannot be made. The
observers of the chains before that one are at work by then and stay so, without anyone who could
stop them.
-/

namespace BridgeWatch

/-- What has come of a start. -/
structure StartResult where
  /-- The observers that were set to work. -/
  supervisor : Supervisor
  /-- Why not all of them were. -/
  fault : Option Fault
  deriving Repr

/-- The observer of a chain. Its connector is made first. -/
def Observer.connected (chain : ChainId) (s : ChainSettings) (unhealthyAfter : UInt32) :
    Except Fault (Rpc.Connector × Observer) := do
  let connector ← Rpc.Connector.ofSettings chain s
  let observer ← Observer.ofSettings chain s unhealthyAfter
  return (connector, observer)

namespace Supervisor

/-- Sets observers to work one after the other, up to the first that cannot be made. -/
def spawnAll (s : Supervisor) (unhealthyAfter : UInt32) (now : Nat) :
    List (ChainId × ChainSettings) → StartResult
  | [] => ⟨s, none⟩
  | (chain, settings) :: rest =>
    match Observer.connected chain settings unhealthyAfter with
    | .error f => ⟨s, some f⟩
    | .ok (_, o) => spawnAll (s.spawn o now) unhealthyAfter now rest

/-- Sets an observer to work for every enabled chain, of those in `only` if that is given. -/
def start (settings : Settings) (only : Option (List ChainId)) (now : Nat) : StartResult :=
  let s := Supervisor.empty (settings.global.shutdownTimeoutSeconds.toNat * 1000)
  match settings.enabledChains only with
  | [] => ⟨s, some (.internal "No enabled chains to observe")⟩
  | chains => s.spawnAll settings.global.unhealthyAfterFailures now chains

end Supervisor

end BridgeWatch
