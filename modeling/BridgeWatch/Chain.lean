import BridgeWatch.Text.Blank

/-!
# Chain identifiers

A chain is named by a text. Names read from an operator (`ChainId.ofText?`) lose the white space
around them and must not be empty; names that come from settings or events are taken as they are.
-/

namespace BridgeWatch

/-- The name of a source or destination chain. -/
structure ChainId where
  text : String
  deriving DecidableEq, Repr, Inhabited

namespace ChainId

/-- Chains are ordered by their names, code point by code point. -/
def before (a b : ChainId) : Bool := decide (a.text < b.text)

/-- The chain that a text names: what is left of it without the white space around it, unless that
is nothing. -/
def ofText? (s : String) : Option ChainId :=
  match Text.trim s.toList with
  | [] => none
  | cs => some ⟨String.ofList cs⟩

end ChainId

end BridgeWatch
