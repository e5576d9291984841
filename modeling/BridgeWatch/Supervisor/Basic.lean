import BridgeWatch.Observer.Cadence
import BridgeWatch.Observer.Tick

/-!
# Supervised observers

An agent is an observer at work: asleep until its next tick, in a tick that waits for an answer, or
stopped. Ticks of one agent never overlap, since it sleeps only when its tick has ended.

A supervisor holds the agents of several chains and what they share. Cancelling it drops the ticks
in flight: an agent that is cancelled stops where it stands, and what it has not written by then is
never written.

A shutdown cancels the agents and waits for them (`Supervisor.join`). It returns when all have ended
or, at the latest, at its deadline, at which it aborts those that have not: these do not get to act
any more, not even to say that they are idle.
-/

namespace BridgeWatch

/-- How an agent has ended. -/
inductive AgentEnd
  /-- It has noticed that it was told to stop, and has returned. -/
  | returned (result : Except Fault Unit)
  /-- It could not be timed. -/
  | panicked
  /-- It was ended by others. -/
  | aborted
  deriving Repr

/-- What an agent is doing. -/
inductive Activity
  /-- Waiting for the deadline of its next tick. -/
  | sleeping (deadline : Nat)
  /-- In a tick that waits for an answer, which arrives at a given time; the next tick is due at
  `next`. -/
  | ticking (next : Nat) (phase : Phase) (arrival : Nat)
  /-- Ended. -/
  | stopped (how : AgentEnd)
  deriving Repr, Inhabited

/-- An observer at work. -/
structure Agent where
  observer : Observer
  progress : Progress
  activity : Activity
  deriving Repr, Inhabited

namespace Agent

/-- An observer set to work, whose first tick is due at once. -/
def spawn (o : Observer) (now : Nat) : Agent := ⟨o, o.initialProgress, .sleeping now⟩

/-- When an agent goes on, unless it has ended. -/
def due? (a : Agent) : Option Nat :=
  match a.activity with
  | .sleeping deadline => some deadline
  | .ticking _ _ arrival => some arrival
  | .stopped _ => none

/-- The agent has not ended. -/
def isAlive (a : Agent) : Bool := a.due?.isSome

/-- The agent may go on at a given time. -/
def isDue (a : Agent) (now : Nat) : Bool := a.due?.any (· ≤ now)

/-- The agent after a step of its tick; `next` is when its next tick is due, and `arrival` when the
answer that a phase waits for arrives. -/
def enter (a : Agent) (next : Nat) (arrival : Phase → Nat) : TickStep → Agent × Shared
  | .waiting p v =>
    ({ a with progress := v.progress, activity := .ticking next p (arrival p) }, v.shared)
  | .finished _ v => ({ a with progress := v.progress, activity := .sleeping next }, v.shared)

/-- Begins the tick that was due at the deadline of a sleeping agent. An observer with no time
between its ticks cannot be timed. -/
def wake (a : Agent) (now deadline : Nat) (arrival : Phase → Nat) (s : Shared) : Agent × Shared :=
  if a.observer.pollInterval = 0 then ({ a with activity := .stopped .panicked }, s)
  else
    a.enter (Cadence.nextDeadline a.observer.pollInterval deadline now) arrival
      (a.observer.startTick ⟨a.progress, s⟩)

/-- Goes on with a tick whose answer has arrived. -/
def resume (a : Agent) (next : Nat) (arrival : Phase → Nat) (p : Phase)
    (answer : (p.request a.observer).Reply) (s : Shared) : Agent × Shared :=
  a.enter next arrival (a.observer.resumeTick ⟨a.progress, s⟩ p answer)

/-- Lets an agent notice that it was told to stop: it drops its tick, if it is in one, and returns.
An observer that cannot be timed has not even begun to look. -/
def cancel (a : Agent) : Agent :=
  match a.activity with
  | .stopped _ => a
  | _ =>
    if a.observer.pollInterval = 0 then { a with activity := .stopped .panicked }
    else
      { a with
        activity := .stopped (.returned (.ok ()))
        progress := { a.progress with status := { a.progress.status with state := .idle } } }

/-- Ends an agent from outside, where it stands. -/
def abort (a : Agent) : Agent :=
  match a.activity with
  | .stopped _ => a
  | _ => { a with activity := .stopped .aborted }

end Agent

/-- Whether agents are to work. -/
inductive Standing
  | working
  /-- They were told to stop. -/
  | cancelled
  /-- They were told to stop, and a shutdown waits for them until a deadline. -/
  | joining (deadline : Nat)
  /-- They were told to stop, and a shutdown has returned. -/
  | joined (result : Except Fault Unit)
  deriving Repr, Inhabited

/-- Agents, what they share, and whether they are to work. -/
structure Supervisor where
  agents : List Agent
  shared : Shared
  standing : Standing
  /-- How long a shutdown waits for the agents, in milliseconds. -/
  shutdownTimeout : Nat
  deriving Repr, Inhabited

namespace Supervisor

/-- A supervisor without agents. -/
def empty (shutdownTimeout : Nat) : Supervisor := ⟨[], .empty, .working, shutdownTimeout⟩

/-- Sets one more observer to work. -/
def spawn (s : Supervisor) (o : Observer) (now : Nat) : Supervisor :=
  { s with agents := s.agents ++ [Agent.spawn o now] }

/-- The chains of the agents. -/
def chains (s : Supervisor) : List ChainId := s.agents.map (·.observer.chain)

/-- A report on every agent. -/
def health (s : Supervisor) : List HealthReport :=
  s.agents.map fun a => a.observer.health a.progress s.shared

/-- Overrides the watermark of a chain. -/
def resync (s : Supervisor) (chain : ChainId) (height : UInt64) : Option UInt64 × Supervisor :=
  let (previous, shared) := s.shared.resync chain height
  (previous, { s with shared := shared })

/-! ## Stopping -/

/-- The agents were told to stop. -/
def cancelled (s : Supervisor) : Bool :=
  match s.standing with
  | .working => false
  | .cancelled | .joining _ | .joined _ => true

/-- Tells the agents to stop. They do so when they next get to act. -/
def cancel (s : Supervisor) : Supervisor :=
  match s.standing with
  | .working => { s with standing := .cancelled }
  | .cancelled | .joining _ | .joined _ => s

/-- Lets all agents notice that they were told to stop. -/
def stopAll (s : Supervisor) : Supervisor := { s with agents := s.agents.map Agent.cancel }

/-- Some agent has not ended. -/
def isBusy (s : Supervisor) : Bool := s.agents.any Agent.isAlive

/-- What a shutdown comes to that waits for the agents until a deadline and looks at them now. -/
def conclude? (s : Supervisor) (deadline now : Nat) : Option (Except Fault Unit × Supervisor) :=
  if s.isBusy = false then some (.ok (), { s with standing := .joined (.ok ()) })
  else if deadline ≤ now then
    let timedOut := .error (.internal "Shutdown timed out")
    some (timedOut, { s with agents := s.agents.map Agent.abort, standing := .joined timedOut })
  else none

theorem lt_of_conclude?_eq_none {s : Supervisor} {deadline now : Nat}
    (h : s.conclude? deadline now = none) : now < deadline := by
  unfold conclude? at h
  split at h
  · cases h
  · split at h
    · cases h
    · omega

/-- Tells the agents to stop and begins to wait for them. -/
def beginShutdown (s : Supervisor) (now : Nat) : Supervisor :=
  { s with standing := .joining (now + s.shutdownTimeout) }

/-- Waits for the agents until a deadline: looks at them, lets them act, looks again, and lets time
pass. Gives what the shutdown returns, and when it does. -/
def join (deadline now : Nat) (s : Supervisor) : Except Fault Unit × Nat × Supervisor :=
  match _h : s.conclude? deadline now with
  | some (result, s) => (result, now, s)
  | none =>
    match s.stopAll.conclude? deadline now with
    | some (result, s) => (result, now, s)
    | none => join deadline (now + 1) s.stopAll
termination_by deadline - now
decreasing_by
  have := lt_of_conclude?_eq_none _h
  omega

/-- Tells the agents to stop and waits for them. -/
def shutdown (s : Supervisor) (now : Nat) : Except Fault Unit × Nat × Supervisor :=
  (s.beginShutdown now).join (now + s.shutdownTimeout) now

/-- Lets the agents act on being told to stop. -/
def noticeCancel (s : Supervisor) : Supervisor := if s.cancelled then s.stopAll else s

end Supervisor

end BridgeWatch
