import BridgeWatch.Rehearsal.World
import BridgeWatch.Supervisor.Basic

/-!
# Rehearsals on a virtual clock

A rehearsal is a supervisor whose remote ends are scripted and whose clock moves only when every
agent waits. Time passes by `Rehearsal.sleep`: at each time before its end at which some agent is
due, the agents act one after the other, each until it has to wait, and the clock stands at the end
of the sleep before those act that are due then. Agents told to stop do so as soon as time may pass,
and a shutdown waits for them (`Rehearsal.shutdown`).

That an agent has to wait in the end rests on its rank: a tick takes fewer and fewer steps to its
end, and the deadline of the next tick moves on.
-/

namespace BridgeWatch

/-- A supervisor, scripted remote ends and the virtual time in milliseconds. -/
structure Rehearsal where
  now : Nat
  supervisor : Supervisor
  world : Rehearsal.World
  deriving Inhabited

namespace Rehearsal

/-! ## One agent -/

/-- Records the call that an agent makes when it enters a phase. -/
def noteCall (now : Nat) (a : Agent) (w : World) : World :=
  match a.activity with
  | .ticking _ p _ => w.note now a.observer.chain (p.request a.observer)
  | _ => w

/-- When the answer to a phase of an agent's tick arrives. -/
def arrival (now : Nat) (a : Agent) (w : World) (p : Phase) : Nat :=
  now + w.delay a.observer.chain (p.request a.observer)

/-- A step of one agent at the current time: it wakes up, or its answer arrives. -/
def act (now : Nat) (a : Agent) (s : Shared) (w : World) : Agent × Shared × World :=
  match a.activity with
  | .stopped _ => (a, s, w)
  | .sleeping deadline =>
    let (b, s) := a.wake now deadline (arrival now a w) s
    (b, s, noteCall now b w)
  | .ticking next p _ =>
    let (r, w) := World.answer a.observer.chain (p.request a.observer) w
    let (b, s) := a.resume next (arrival now a w) p r s
    (b, s, noteCall now b w)

/-- How far an agent is from having to wait at a given time: how long the deadline of its next tick
has passed, whether it is in a tick, and how far that tick is from its end. -/
def rank (now : Nat) (a : Agent) : Nat × Nat × Nat × Nat :=
  match a.activity with
  | .stopped _ => (0, 0, 0, 0)
  | .sleeping deadline => (now + 1 - deadline, 0, 0, 0)
  | .ticking next p _ => (now + 1 - next, 1, p.stage, p.left)

/-- The order of ranks. -/
abbrev RankLt : Nat × Nat × Nat × Nat → Nat × Nat × Nat × Nat → Prop :=
  Prod.Lex (· < ·) (Prod.Lex (· < ·) (Prod.Lex (· < ·) (· < ·)))

theorem rank_wake (now deadline : Nat) (a : Agent) (f : Phase → Nat) (s : Shared)
    (h : deadline ≤ now) :
    RankLt (rank now (a.wake now deadline f s).1) (now + 1 - deadline, 0, 0, 0) := by
  unfold Agent.wake
  split
  · exact .left _ _ (by omega)
  · rename_i hp
    have hn := Cadence.lt_nextDeadline hp deadline now
    cases a.observer.startTick ⟨a.progress, s⟩ <;> exact .left _ _ (by omega)

theorem rank_resume (now next : Nat) (a : Agent) (f : Phase → Nat) (p : Phase)
    (r : (p.request a.observer).Reply) (s : Shared) :
    RankLt (rank now (a.resume next f p r s).1) (now + 1 - next, 1, p.stage, p.left) := by
  have hm := a.observer.resumeTick_measure ⟨a.progress, s⟩ p r
  unfold Agent.resume
  revert hm
  cases a.observer.resumeTick ⟨a.progress, s⟩ p r with
  | waiting q v => exact fun hm => .right _ (.right _ hm)
  | finished q v => exact fun _ => .right _ (.left _ _ Nat.zero_lt_one)

theorem rank_act {now : Nat} {a : Agent} (s : Shared) (w : World) (h : a.isDue now = true) :
    RankLt (rank now (act now a s w).1) (rank now a) := by
  unfold act
  conv => rhs; unfold rank
  cases ha : a.activity with
  | stopped how => simp [Agent.isDue, Agent.due?, ha] at h
  | sleeping deadline =>
    exact rank_wake _ _ _ _ _ (by simpa [Agent.isDue, Agent.due?, ha] using h)
  | ticking next p arrival => exact rank_resume ..

/-- Lets an agent act at a given time until it has to wait. -/
def settle (now : Nat) (a : Agent) (s : Shared) (w : World) : Agent × Shared × World :=
  if _h : a.isDue now = true then
    let r := act now a s w
    settle now r.1 r.2.1 r.2.2
  else (a, s, w)
termination_by rank now a
decreasing_by exact rank_act s w ‹_›

/-! ## All agents -/

/-- Lets agents act at a given time, one after the other. -/
def settleAll (now : Nat) (s : Shared) (w : World) : List Agent → List Agent × Shared × World
  | [] => ([], s, w)
  | a :: as =>
    let (a, s, w) := settle now a s w
    let (as, s, w) := settleAll now s w as
    (a :: as, s, w)

/-- Lets the agents act that are due at a given time. -/
def instant (r : Rehearsal) (now : Nat) : Rehearsal :=
  let (agents, shared, world) := settleAll now r.supervisor.shared r.world r.supervisor.agents
  ⟨now, { r.supervisor with agents := agents, shared := shared }, world⟩

/-- When the first of the agents that have not ended goes on. -/
def nextDue? (agents : List Agent) : Option Nat := (agents.filterMap Agent.due?).min?

/-- Lets the agents act that are due from a time on and before another, at which the clock then
stands. -/
def runFrom (start target : Nat) (r : Rehearsal) : Rehearsal :=
  match nextDue? r.supervisor.agents with
  | none => { r with now := target }
  | some due =>
    if max due start < target then runFrom (max due start + 1) target (r.instant (max due start))
    else { r with now := target }
termination_by target - start
decreasing_by omega

/-- Lets time pass. -/
def sleep (r : Rehearsal) (ms : Nat) : Rehearsal :=
  if ms = 0 then r
  else runFrom r.now (r.now + ms) { r with supervisor := r.supervisor.noticeCancel }

/-- Shuts the supervisor down. -/
def shutdown (r : Rehearsal) : Except Fault Unit × Rehearsal :=
  let (result, now, supervisor) := r.supervisor.shutdown r.now
  (result, { r with now := now, supervisor := supervisor })

end Rehearsal

end BridgeWatch
