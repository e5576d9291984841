import BridgeWatch.Http.Exchange
import BridgeWatch.Json.Reader
import BridgeWatch.Ledger.Json
import BridgeWatch.Settings.Basic

/-!
# The ledger's gateway

The coordinating ledger is reached over HTTP. Below the path of the configured endpoint, it tells
the last processed height of a chain at `chains/<chain>/last-height` and takes submissions at
`transfers` and `receipts`. A chain that it does not know has height zero.

Faults of a lookup are faults of the ledger, faults of a submission are submission faults.
-/

namespace BridgeWatch

/-- A client of the ledger. -/
structure Gateway where
  /-- The endpoint, as a place for routes. -/
  base : Url
  signer : String
  deriving DecidableEq, Repr

namespace Gateway

/-- The client that settings describe. -/
def ofSettings (s : LedgerSettings) : Except Fault Gateway :=
  match Url.parse s.endpoint with
  | .ok url => .ok ⟨url.asDirectory, s.signerName⟩
  | .error f => .error (.ledger ("Invalid endpoint " ++ s.endpoint ++ ": " ++ f.message))

/-! ## Routes -/

/-- The route to the height of a chain. -/
def heightRoute (chain : ChainId) : String := "chains/" ++ chain.text ++ "/last-height"

/-- The route that takes a submission. -/
def submissionRoute : Submission → String
  | .transfer _ => "transfers"
  | .receipt _ => "receipts"

/-- The URL of a route. -/
def url (g : Gateway) (route : String) : Except Fault Url :=
  match g.base.resolve route.toList with
  | .ok u => .ok u
  | .error f => .error (.ledger ("Invalid route " ++ route ++ ": " ++ f.message))

/-! ## Replies -/

/-- The fault of a reply that is not the expected record. -/
def unreadable (route : String) : Fault := .ledger ("Invalid response from " ++ route)

/-- The fault of a reply that does not mean success. -/
def refused (route : String) (status : Nat) (body : String) : Fault :=
  .ledger (route ++ " returned " ++ Http.statusText status ++ ": " ++ body)

/-- The only field of a reply. -/
def readField {α : Type} (route name : String) (f : Json → Option α) (status : Nat)
    (body : String) : Except Fault α :=
  if !Http.isSuccess status then .error (refused route status body)
  else
    match Json.parse body with
    | .error _ => .error (unreadable route)
    | .ok j =>
      match (Json.Record.of? [name] j).bind fun r => r.required name f with
      | some a => .ok a
      | none => .error (unreadable route)

/-- The height that the reply to a lookup gives. -/
def readHeight (route : String) : Http.Exchange → Except Fault UInt64
  | .unanswered => .error (.ledger ("GET " ++ route ++ " failed"))
  | .replied status body =>
    if status = 404 then .ok 0 else readField route "last_send_height" Json.word? status body

/-- The identifier that the reply to a submission gives. -/
def readIdentifier (route : String) : Http.Exchange → Except Fault CorrelationId
  | .unanswered => .error (.submission ("POST " ++ route ++ " failed"))
  | .replied status body =>
    match readField route "correlation_id" Json.string? status body with
    | .ok id => .ok ⟨id⟩
    | .error f => .error (.submission f.message)

/-! ## Calls -/

/-- Asks for the last processed height of a chain. -/
def lastHeight {σ : Type} (g : Gateway) (t : Http.Transport σ) (chain : ChainId) (s : σ) :
    Except Fault UInt64 × σ :=
  let route := heightRoute chain
  match g.url route with
  | .error f => (.error f, s)
  | .ok u =>
    let (x, s) := t.exchange ⟨.get, u, none, none⟩ s
    (readHeight route x, s)

/-- Submits a transfer or receipt. -/
def submit {σ : Type} (g : Gateway) (t : Http.Transport σ) (submission : Submission) (s : σ) :
    Except Fault CorrelationId × σ :=
  let route := submissionRoute submission
  match g.url route with
  | .error f => (.error (.submission f.message), s)
  | .ok u =>
    let (x, s) := t.exchange ⟨.post, u, some g.signer, some submission.toJson⟩ s
    (readIdentifier route x, s)

end Gateway

end BridgeWatch
