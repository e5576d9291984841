import BridgeWatch.Ledger.Gateway
import BridgeWatch.Observer.Run
import BridgeWatch.Rpc.Connector

/-!
# The remote ends of an observer

What an observer asks for is answered by the connector of its chain and the ledger's gateway, over
one transport.
-/

namespace BridgeWatch

/-- A connector and a gateway as the remote ends of an observer. -/
def Remote.over {σ : Type} (connector : Rpc.Connector) (gateway : Gateway)
    (transport : Http.Transport σ) : Remote σ where
  answer
    | .recordedHeight chain, s => gateway.lastHeight transport chain s
    | .head, s => connector.head transport s
    | .logs contract window, s => connector.fetch transport contract window s
    | .submit submission, s => gateway.submit transport submission s

end BridgeWatch
