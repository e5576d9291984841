import BridgeWatch.Fault

/-!
# Deadlines

`withDeadline` is what becomes of an operation that takes some time when only so much time is given.
An operation that ends exactly at the deadline still counts.
-/

namespace BridgeWatch

/-- The wording of an operation that took too long. -/
def timeoutMessage (operation : String) (deadline : Nat) : String :=
  "Operation '" ++ operation ++ "' timed out after " ++ Text.decimal deadline ++ "ms"

/-- The result of an operation that takes `work` milliseconds, and when it is known; `onTimeout`
makes a fault of the wording. -/
def withDeadline {α : Type} (deadline work : Nat) (operation : String)
    (onTimeout : String → Fault) (result : Except Fault α) : Except Fault α × Nat :=
  if work ≤ deadline then (result, work)
  else (.error (onTimeout (timeoutMessage operation deadline)), deadline)

end BridgeWatch
