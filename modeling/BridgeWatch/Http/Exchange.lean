import BridgeWatch.Http.Status
import BridgeWatch.Json.Basic
import BridgeWatch.Url.Basic

/-!
# Exchanges over HTTP

A request, what becomes of it (`Exchange`), and the means to send requests one after the other
(`Transport`), of which nothing else is assumed. A request that cannot be written down properly, or
whose URL names no web server, is never sent (`Transport.exchange`).
-/

namespace BridgeWatch.Http

/-- The methods in use. -/
inductive Method
  | get
  | post
  deriving DecidableEq, Repr

/-- The name of a method. -/
def Method.name : Method → String
  | get => "GET"
  | post => "POST"

/-- A request. -/
structure Request where
  method : Method
  url : Url
  /-- The value of the header that names the signer. -/
  signer : Option String
  body : Option Json

/-- What becomes of a request. -/
inductive Exchange
  /-- No reply came. -/
  | unanswered
  | replied (status : Nat) (body : String)
  deriving DecidableEq, Repr

/-- A text that can be the value of a header: it holds no controls but tabs. -/
def isHeaderText (s : String) : Bool :=
  s.toList.all fun c => c == '\t' || (0x20 ≤ c.toNat && c.toNat != 0x7F)

/-- A request can be sent. -/
def Request.isSendable (q : Request) : Bool :=
  (q.signer.all isHeaderText) && q.url.host.isSome &&
    (q.url.scheme == "http".toList || q.url.scheme == "https".toList)

/-- The means to send requests, whose state may change with each. -/
structure Transport (σ : Type) where
  send : Request → σ → Exchange × σ

namespace Transport

/-- Sends a request if it can be sent. -/
def exchange {σ : Type} (t : Transport σ) (q : Request) (s : σ) : Exchange × σ :=
  if q.isSendable then t.send q s else (.unanswered, s)

/-- A network on which no reply ever comes. -/
def silent (σ : Type) : Transport σ := ⟨fun _ s => (.unanswered, s)⟩

end Transport

end BridgeWatch.Http
