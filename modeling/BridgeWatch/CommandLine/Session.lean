import BridgeWatch.CommandLine.Log
import BridgeWatch.CommandLine.Options
import BridgeWatch.Observer.Connection
import BridgeWatch.Settings.Load
import BridgeWatch.Settings.Validation
import BridgeWatch.SocketAddress
import BridgeWatch.Supervisor.Pace
import BridgeWatch.Supervisor.Start

/-!
# Sessions of the program

A session reads the arguments and the settings, checks them, and then either ends or sets observers
to work (`Session.begin`). Observers work until the operator stops the program (`Watch.stop`). All
that a session writes is collected on a `Console`.
-/

namespace BridgeWatch.CommandLine

/-! ## What is written -/

/-- The lines written so far, and what is written of the log. -/
structure Console where
  filter : LogFilter
  out : List String
  err : List String

/-- What a session wrote, and the code with which it ended. -/
structure Report where
  code : UInt32
  out : List String
  err : List String
  deriving DecidableEq, Repr

/-- Why a session fails, and what caused that. -/
structure Failure where
  context : String
  cause : Option String
  deriving DecidableEq, Repr

/-- The lines of a text. -/
def linesOf (s : String) : List String := (Text.pieces (· == '\n') s.toList).map String.ofList

/-- The lines that tell of a failure. -/
def Failure.lines (f : Failure) : List String :=
  linesOf ("Error: " ++ f.context) ++
    match f.cause with
    | none => []
    | some cause => ["", "Caused by:"] ++ (linesOf cause).map ("    " ++ ·)

namespace Console

/-- Writes a line of the log, if such lines are shown. -/
def log (c : Console) (level : LogLevel) (message : String)
    (fields : List (String × String)) : Console :=
  if c.filter.shows level then { c with out := c.out ++ [(LogLine.mk level message fields).text] }
  else c

/-- Writes a line about what is going on. -/
def info (c : Console) (message : String) (fields : List (String × String)) : Console :=
  c.log .info message fields

/-- Ends a session. -/
def succeed (c : Console) : Report := ⟨0, c.out, c.err⟩

/-- Ends a session that failed. -/
def fail (c : Console) (f : Failure) : Report := ⟨1, c.out, c.err ++ f.lines⟩

/-- A console on which nothing is written yet. -/
def cleared (c : Console) : Console := { c with out := [], err := [] }

end Console

/-! ## Fields of log lines -/

/-- Texts between brackets. -/
def bracketed (items : List String) : String := "[" ++ ", ".intercalate items ++ "]"

/-- A chain. -/
def shownChain (c : ChainId) : String := "ChainId(" ++ Text.quoted c.text ++ ")"

/-- A value that may be missing. -/
def shownOption {α : Type} (f : α → String) : Option α → String
  | none => "None"
  | some a => "Some(" ++ f a ++ ")"

/-- A judgement of an observer. -/
def shownLevel : HealthLevel → String
  | .healthy => "Healthy"
  | .degraded => "Degraded"
  | .unhealthy => "Unhealthy"
  | .unknown => "Unknown"

/-- A height. -/
def shownHeight (h : UInt64) : String := Text.decimal h.toNat

/-! ## Sessions -/

/-- Observers at work, the clients of their remote ends, and the console of their session. -/
structure Watch where
  console : Console
  supervisor : Supervisor
  connectors : List Rpc.Connector
  gateway : Gateway

/-- What a session comes to. -/
inductive Session
  | ended (report : Report)
  | watching (watch : Watch)

namespace Watch

/-- Writes a line about an observer's health. -/
def logHealth (c : Console) (h : HealthReport) : Console :=
  let s := h.status
  let common :=
    [("chain", h.chain.text), ("status", shownLevel h.level),
      ("watermark", shownOption shownHeight h.watermark)]
  match h.level with
  | .healthy | .unknown =>
    c.info "Observer health" (common ++
      [("head", shownOption shownHeight s.lastHead),
        ("forwarded", Text.decimal s.counters.eventsForwarded),
        ("skipped", Text.decimal s.counters.eventsSkipped)])
  | .degraded | .unhealthy =>
    c.log .warn "Observer health" (common ++
      [("failures", Text.decimal s.consecutiveFailures),
        ("last_error", shownOption Text.quoted s.lastError)])

/-- Writes a line about the health of each observer. -/
def summarize (w : Watch) : Watch :=
  { w with console := w.supervisor.health.foldl logHealth w.console }

/-- The remote ends of a chain's observer. -/
def remote {σ : Type} (w : Watch) (transport : Http.Transport σ) (chain : ChainId) : Remote σ :=
  .over ((w.connectors.find? fun c => c.chain = chain).getD default) w.gateway transport

/-- Runs the ticks that are due at a time, in milliseconds since the observers were set to work. -/
def runDue {σ : Type} (w : Watch) (transport : Http.Transport σ) (now : Nat) (s : σ) : Watch × σ :=
  let (supervisor, s) := w.supervisor.runDue (w.remote transport) now s
  ({ w with supervisor := supervisor }, s)

/-- Stops the observers at a time, in milliseconds since they were set to work, and ends the
session. -/
def stop (w : Watch) (now : Nat) : Report :=
  let c := w.console.info "Shutdown signal received, stopping observers..." []
  let c := match (w.supervisor.shutdown now).1 with
    | .ok _ => c
    | .error f => c.log .error "Observers did not shut down cleanly" [("error", f.message)]
  (c.info "Crosslink Observer stopped" []).succeed

end Watch

namespace Session

/-- The report of a session that is stopped as soon as its observers are at work. -/
def report : Session → Report
  | ended r => r
  | watching w => w.stop 0

/-- The console of a session whose log shows lines up to the level that a word names. A filter of
the environment comes before it. -/
def openConsole (filterText : Option String) (level : String) : Console :=
  let (level, warnings) := match LogLevel.ofWord? level with
    | some l => (l, [])
    | none => (.info, linesOf ("Invalid log level: " ++ level ++ ". Using 'info'"))
  ⟨(filterText.bind LogFilter.read?).getD (.upTo level), [], warnings⟩

/-- The chains that a list between commas names, if there is a list. -/
def chains : Option String → Except Fault (Option (List ChainId))
  | none => .ok none
  | some s =>
    ((Text.pieces (· == ',') s.toList).mapM fun p => ChainId.parse (String.ofList p)).map some

/-- Opens the exporter of metrics, if there is one. -/
def exportMetrics (c : Console) (s : MetricsSettings) : Except Failure Console :=
  if !s.enabled then .ok c
  else
    match SocketAddress.read? s.bindAddress s.port with
    | none =>
      .error ⟨"Invalid Prometheus listen address", some "invalid socket address syntax"⟩
    | some a => .ok (c.info "Prometheus exporter listening" [("addr", a.text)])

/-- Sets the observers to work. -/
def watch (c : Console) (settings : Settings) (only : Option (List ChainId)) : Session :=
  match exportMetrics c settings.metrics with
  | .error f => .ended (c.fail f)
  | .ok c =>
    match Gateway.ofSettings settings.ledger with
    | .error f =>
      .ended (c.fail ⟨"Failed to create coordinating ledger client", some f.message⟩)
    | .ok gateway =>
      let started := Supervisor.start settings only 0
      match started.fault with
      | some f => .ended (c.fail ⟨"Failed to start observers", some f.message⟩)
      | none =>
        let s := started.supervisor
        let c := c.info "Observers running" [("chains", bracketed (s.chains.map shownChain))]
        let connectors := (settings.enabledChains only).filterMap fun e =>
          (Rpc.Connector.ofSettings e.1 e.2).toOption
        .watching ⟨c, s, connectors, gateway⟩

/-- Goes on with settings that are valid. -/
def withSettings (c : Console) (o : Options) (settings : Settings) : Session :=
  match chains o.chains with
  | .error f => .ended (c.fail ⟨f.message, none⟩)
  | .ok only =>
    if o.checkConfig then
      let names := (settings.enabledChains only).map fun e => Text.quoted e.1.text
      .ended (c.info "Configuration is valid" [("chains", bracketed names)]).succeed
    else watch c settings only

/-- Loads the settings and goes on with them. -/
def withOptions (sources : Settings.Sources) (o : Options) : Session :=
  match { sources with named := o.config }.load with
  | .error f =>
    .ended ⟨1, [], (Failure.mk "Failed to load configuration" (some f.message)).lines⟩
  | .ok settings =>
    let c := openConsole (sources.valueOf? "RUST_LOG") (o.logLevel.getD settings.global.logLevel)
    let c := c.info "Starting Crosslink Observer" [("version", Text.quoted programVersion)]
    match settings.validate with
    | .error i => .ended (c.fail ⟨"Invalid configuration", some i.message⟩)
    | .ok _ =>
      let count := Text.decimal settings.chains.length
      withSettings (c.info "Configuration loaded successfully" [("chains", count)]) o settings

/-- Begins a session with the given arguments. -/
def begin (sources : Settings.Sources) (args : List String) : Session :=
  match Options.read args with
  | .error f => .ended ⟨2, [], f.lines⟩
  | .ok .help => .ended ⟨0, helpLines, []⟩
  | .ok .version => .ended ⟨0, [versionLine], []⟩
  | .ok (.run o) => withOptions sources o

end Session

end BridgeWatch.CommandLine
