import BridgeWatch.Http.Exchange
import BridgeWatch.Json.Reader
import BridgeWatch.Json.Shown
import BridgeWatch.Rpc.Logs
import BridgeWatch.Rpc.Rejection
import BridgeWatch.Settings.Basic
import BridgeWatch.Window

/-!
# Connectors

A connector talks to the node of a chain by JSON-RPC over HTTP. It reads the head and fetches the
logs of a contract in a window; a window that is empty or larger than the node is asked for is
refused without a word to the node (`Connector.guardWindow`).

A failed call has a wording that carries what the node has said (`CallFault.message`). If that says
the window was too large, the fault is `Fault.rangeTooLarge`; any other is a failure of the
connection.
-/

namespace BridgeWatch.Rpc

/-- The error with which a node answers. -/
structure NodeError where
  code : Int
  message : String
  /-- What else the node says of it, collected. -/
  data : Option Json

/-- The data of an error as they are shown. -/
def NodeError.dataText (e : NodeError) : String :=
  match e.data with
  | none => "None"
  | some j => "Some(" ++ String.ofList j.shown ++ ")"

/-- The wording of an error. -/
def NodeError.text (e : NodeError) : String :=
  "(code: " ++ Text.signedDecimal e.code ++ ", message: " ++ e.message ++
    ", data: " ++ e.dataText ++ ")"

/-- Why a call of a node failed. -/
inductive CallFault
  /-- No reply came. -/
  | unanswered
  /-- A reply, or its result, that is not what was asked for, as the node wrote it. -/
  | unreadable (cause text : String)
  /-- The node answered with an error. -/
  | refused (e : NodeError)

/-- The wording of a failed call. -/
def CallFault.message : CallFault → String
  | .unanswered => "error sending request"
  | .unreadable cause text => "Deserialization Error: " ++ cause ++ ". Response: " ++ text
  | .refused e => e.text

/-! ## Envelopes -/

/-- The call of a method. -/
def envelope (id : Nat) (method : String) (params : Json) : Json :=
  .obj [("id", .nat id), ("jsonrpc", .str "2.0"), ("method", .str method), ("params", params)]

/-- The parameters of a call that fetches logs. -/
def logParams (contract : Address) (w : Window) : Json :=
  let height := fun (n : UInt64) => Json.str (Text.Hex.marked (Text.Hex.minimal n.toNat))
  .arr [.obj [("fromBlock", height w.first), ("toBlock", height w.last),
    ("address", .str contract.text), ("topics", .arr [])]]

/-- The value is an integer of 64 bits. -/
def integer? : Json → Option Int
  | .int n => if n < UInt64.size / 2 then some n else none
  | _ => none

/-- Reads the error of a reply. An array has to give all three fields. -/
def readError? (j : Json) : Option NodeError := do
  let r ← Json.Record.of? ["code", "message", "data"] j
  guard (j.array?.all fun fields => fields.length == 3)
  let code ← r.required "code" integer?
  let message ← r.required "message" Json.string?
  let data ← r.optional "data" fun data => some data.collected
  return ⟨code, message, data⟩

/-- The result in a reply's envelope, which has a result or an error. -/
def readEnvelope? : Json → Option (Except NodeError Json)
  | .obj ms =>
    let names := ms.map (·.1)
    let get := fun name => Json.member? name (.obj ms)
    if names.Nodup ∧ names.all ["id", "jsonrpc", "result", "error"].contains ∧
        (get "jsonrpc").bind Json.string? = some "2.0" ∧
        ((get "id").bind Json.word?).isSome then
      match get "result", get "error" with
      | some result, none => some (.ok result)
      | none, some e => (readError? e).map .error
      | _, _ => none
    else none
  | _ => none

/-- The cause for a value that is not of the wanted shape. One wording stands for all the ways to
miss it. Where others quote a part of the value, they say what the text behind the cause says, which
is the value as the node wrote it, its escapes included. -/
def misfit : String := "unexpected value"

/-- The result that a reply gives, and its text. -/
def readResult : Http.Exchange → Except CallFault (Json × String)
  | .unanswered => .error .unanswered
  | .replied _ body =>
    match Json.parse body with
    | .error f => .error (.unreadable (f.message body.toList) body)
    | .ok j =>
      match readEnvelope? j with
      | none => .error (.unreadable misfit body)
      | some (.error e) => .error (.refused e)
      | some (.ok result) =>
        .ok (result, String.ofList ((Json.memberText? "result" body.toList).getD []))

/-- The value that a reply gives, its result read by `f`. -/
def readReply {α : Type} (f : Json → Option α) (x : Http.Exchange) : Except CallFault α :=
  match readResult x with
  | .error e => .error e
  | .ok (result, text) =>
    match f result with
    | some a => .ok a
    | none => .error (.unreadable misfit text)

/-! ## Connectors -/

/-- A connector of one chain. -/
structure Connector where
  chain : ChainId
  endpoint : Url
  /-- The most blocks that the node is asked for at once. -/
  maxRange : UInt64
  deriving DecidableEq, Repr, Inhabited

namespace Connector

/-- The connector that a chain's settings describe. -/
def ofSettings (chain : ChainId) (s : ChainSettings) : Except Fault Connector :=
  match Url.parse s.endpoint with
  | .ok url => .ok ⟨chain, url, max s.maxWindow 1⟩
  | .error f =>
    .error (.settings ("Invalid RPC endpoint for chain " ++ chain.text ++ ": " ++ f.message))

/-- Refuses a window that is empty or too large. -/
def guardWindow (c : Connector) (w : Window) : Except Fault Unit :=
  if w.last < w.first then .error (.invalidRange w.first w.last)
  else if c.maxRange < w.size then .error (.rangeTooLarge c.chain w.first w.last c.maxRange)
  else .ok ()

/-- The fault of a call that reads the head. -/
def headFault (c : Connector) (f : CallFault) : Fault := .connection c.chain f.message

/-- The fault of a call that fetches the logs of a window. -/
def fetchFault (c : Connector) (w : Window) (f : CallFault) : Fault :=
  if isRangeRejection f.message.toList then .rangeTooLarge c.chain w.first w.last c.maxRange
  else .connection c.chain f.message

/-- The request that calls a method. -/
def request (c : Connector) (method : String) (params : Json) : Http.Request :=
  ⟨.post, c.endpoint, none, some (envelope 1 method params)⟩

/-- Reads the chain's head. -/
def head {σ : Type} (c : Connector) (t : Http.Transport σ) (s : σ) : Except Fault UInt64 × σ :=
  let (x, s) := t.exchange (c.request "eth_blockNumber" .null) s
  ((readReply Json.quantity? x).mapError c.headFault, s)

/-- Reads logs. -/
def logs? (j : Json) : Option (List RawLog) := j.array?.bind fun js => js.mapM RawLog.ofJson?

/-- Fetches the logs of a contract in a window. -/
def fetch {σ : Type} (c : Connector) (t : Http.Transport σ) (contract : Address) (w : Window)
    (s : σ) : Except Fault (List LogEntry) × σ :=
  match c.guardWindow w with
  | .error f => (.error f, s)
  | .ok () =>
    let (x, s) := t.exchange (c.request "eth_getLogs" (logParams contract w)) s
    (((readReply logs? x).mapError (c.fetchFault w)).map entriesOfLogs, s)

end Connector

end BridgeWatch.Rpc
