import BridgeWatch.Observer.Run
import BridgeWatch.Supervisor.Basic

/-!
# Observers with remote ends that answer at once

An agent whose tick is due runs it to its end before any other agent acts. `Supervisor.runDue`
gives every agent its turn.
-/

namespace BridgeWatch

/-- Runs the tick of an agent to its end, if one is due. -/
def Agent.runDue {σ : Type} (a : Agent) (remote : Remote σ) (now : Nat) (s : Shared) (r : σ) :
    Agent × Shared × σ :=
  match a.activity with
  | .sleeping deadline =>
    if now < deadline then (a, s, r)
    else
      let (a, s) := a.wake now deadline (fun _ => now) s
      match a.activity with
      | .ticking next p _ =>
        let (result, v, r) := a.observer.complete remote (.waiting p ⟨a.progress, s⟩) r
        let (a, s) := a.enter next (fun _ => now) (.finished result v)
        (a, s, r)
      | _ => (a, s, r)
  | _ => (a, s, r)

namespace Supervisor

/-- Gives agents their turn, one after the other. -/
def runAgents {σ : Type} (remote : ChainId → Remote σ) (now : Nat) (s : Shared) (r : σ) :
    List Agent → List Agent × Shared × σ
  | [] => ([], s, r)
  | a :: as =>
    let (a, s, r) := a.runDue (remote a.observer.chain) now s r
    let (as, s, r) := runAgents remote now s r as
    (a :: as, s, r)

/-- Runs the ticks that are due. -/
def runDue {σ : Type} (s : Supervisor) (remote : ChainId → Remote σ) (now : Nat) (r : σ) :
    Supervisor × σ :=
  let s := s.noticeCancel
  let (agents, shared, r) := runAgents remote now s.shared r s.agents
  ({ s with agents := agents, shared := shared }, r)

end Supervisor

end BridgeWatch
