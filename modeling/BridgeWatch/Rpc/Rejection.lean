import BridgeWatch.Text.Lowercase
import BridgeWatch.Text.Search

/-!
# Rejected ranges

Nodes refuse queries over too many blocks in words of their own. `isRangeRejection` recognizes such
a message by the phrases they use, in whatever case.
-/

namespace BridgeWatch.Rpc

/-- The phrases by which nodes refuse a range, in lowercase. -/
def rejectionPhrases : List (List Char) :=
  ["query returned more than", "too many results", "too many logs", "block range",
    "range too large", "is limited to", "response size exceeded"].map String.toList

/-- A message says that the range was too large. -/
def isRangeRejection (message : List Char) : Bool :=
  rejectionPhrases.any fun phrase => Text.occursIn phrase (Text.lower message)

end BridgeWatch.Rpc
