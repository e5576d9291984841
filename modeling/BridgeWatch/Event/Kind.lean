/-!
# The kinds of bridge events

Four kinds: deposits and burns open a transfer, releases and mint confirmations complete one. Their
order (`EventKind.all`) is the order in which schemas list them.
-/

namespace BridgeWatch

/-- A kind of bridge event. -/
inductive EventKind
  /-- Tokens locked for transfer to another chain. -/
  | deposit
  /-- Wrapped tokens burned for transfer to another chain. -/
  | burn
  /-- Locked tokens released to a recipient. -/
  | release
  /-- Wrapped tokens minted for a transfer. -/
  | mintConfirmation
  deriving DecidableEq, Repr, Inhabited

namespace EventKind

/-- All kinds in schema order. -/
def all : List EventKind := [deposit, burn, release, mintConfirmation]

/-- The name of a kind. -/
def name : EventKind → String
  | deposit => "deposit"
  | burn => "burn"
  | release => "release"
  | mintConfirmation => "mint_confirmation"

/-- The kind with a given name. -/
def ofName? (s : String) : Option EventKind := all.find? fun k => k.name == s

/-- Events of this kind open a transfer. -/
def isTransfer : EventKind → Bool
  | deposit | burn => true
  | release | mintConfirmation => false

theorem mem_all (k : EventKind) : k ∈ all := by cases k <;> decide

theorem ofName?_name (k : EventKind) : ofName? k.name = some k := by cases k <;> decide

end EventKind

end BridgeWatch
