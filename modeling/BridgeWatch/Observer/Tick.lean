import BridgeWatch.Log.Decode
import BridgeWatch.Observer.Basic
import BridgeWatch.Relay

/-!
# Ticks

A tick is one catch-up step of an observer. It is a machine that runs until it needs an answer from
a remote end, and is resumed with the answer:

* `Phase` is where a tick waits, with what it has read before. `Phase.request` is what it waits for,
  and `Request.Reply` the type of the answer.
* `Observer.startTick` begins a tick and `Observer.resumeTick` goes on with an answer. Each gives a
  `TickStep`: either the next phase, or the result of the tick.

A tick without a watermark looks for one and ends. Any other tick reads the head, fetches the logs
of one window past the watermark, relays the entries one by one, and moves the watermark to the
window's end as its last act. Other observers and the operator may change what is shared while a
tick waits; the machine therefore takes what is shared anew with each answer.
-/

namespace BridgeWatch

/-- What a tick asks of a remote end. -/
inductive Request
  /-- The ledger's last processed height of a chain. -/
  | recordedHeight (chain : ChainId)
  /-- The chain's head. -/
  | head
  /-- The logs of a contract in a window. -/
  | logs (contract : Address) (window : Window)
  /-- A submission to the ledger. -/
  | submit (submission : Submission)
  deriving DecidableEq, Repr

/-- What a remote end answers. -/
abbrev Request.Reply : Request → Type
  | .recordedHeight _ => Except Fault UInt64
  | .head => Except Fault UInt64
  | .logs _ _ => Except Fault (List LogEntry)
  | .submit _ => Except Fault CorrelationId

/-- Where a tick waits. -/
inductive Phase
  /-- For the ledger's record of a chain without a watermark. -/
  | lookup
  /-- For the head at which a chain without a record starts. -/
  | firstHead
  /-- For the head, past the watermark read before. -/
  | head (watermark : UInt64)
  /-- For the logs of a window. -/
  | fetch (window : Window)
  /-- For the ledger's answer to the submission of an event, with the entries behind it. -/
  | relay (window : Window) (tally : Tally) (event : Event) (submission : Submission)
    (rest : List LogEntry)
  deriving DecidableEq, Repr

/-- What a phase waits for. -/
def Phase.request (o : Observer) : Phase → Request
  | .lookup => .recordedHeight o.chain
  | .firstHead => .head
  | .head _ => .head
  | .fetch window => .logs o.contract window
  | .relay _ _ _ submission _ => .submit submission

/-- How a tick ends. -/
abbrev TickResult := Except Fault TickOutcome

/-- What a tick changes: the observer's own progress and what observers share. -/
structure View where
  progress : Progress
  shared : Shared
  deriving DecidableEq, Repr, Inhabited

/-- A tick after a step: waiting or finished. -/
inductive TickStep
  | waiting (phase : Phase) (view : View)
  | finished (result : TickResult) (view : View)

namespace View

/-- Sets the state that the observer reports. -/
def setState (v : View) (state : ObserverState) : View :=
  { v with progress := { v.progress with status := { v.progress.status with state := state } } }

/-- Changes the observer's counters. -/
def modifyCounters (v : View) (f : ObserverCounters → ObserverCounters) : View :=
  let status := v.progress.status
  { v with progress := { v.progress with status := { status with counters := f status.counters } } }

/-- Changes the observer's status. -/
def modifyStatus (v : View) (f : ObserverStatus → ObserverStatus) : View :=
  { v with progress := { v.progress with status := f v.progress.status } }

/-- Sets the window of the next scan. -/
def setWindow (v : View) (window : UInt64) : View :=
  { v with progress := { v.progress with window := window } }

/-- Changes what observers share. -/
def modifyShared (v : View) (f : Shared → Shared) : View := { v with shared := f v.shared }

end View

/-- What is done with a log entry. -/
inductive EntryClass
  | ignored
  | failed (cause : Fault)
  | submitted (event : Event) (submission : Submission)
  deriving DecidableEq, Repr

/-- The name under which the end of a tick is counted. -/
def TickResult.label : TickResult → String
  | .ok outcome => outcome.label
  | .error f => f.category

namespace Observer

/-- Takes note of how a tick ended in the observer's status, and counts failed connections. -/
def recordResult (o : Observer) (result : TickResult) (v : View) : View :=
  match result with
  | .ok (.held _ _ error) => v.modifyStatus (·.recordFailure error)
  | .ok (.applied _ tally) =>
    (v.modifyCounters fun c =>
      { c with
        windowsApplied := c.windowsApplied + 1
        eventsForwarded := c.eventsForwarded + tally.forwarded
        eventsIgnored := c.eventsIgnored + tally.ignored
        eventsSkipped := c.eventsSkipped + tally.skipped }).modifyStatus (·.recordSuccess)
  | .ok _ => v.modifyStatus (·.recordSuccess)
  | .error f =>
    let v :=
      match f with
      | .rangeTooLarge .. =>
        v.modifyCounters fun c => { c with rangeRejections := c.rangeRejections + 1 }
      | .connection .. =>
        (v.modifyCounters fun c => { c with connectionFailures := c.connectionFailures + 1 })
          |>.modifyShared (·.count (.connectionFailures o.chain))
      | _ => v
    v.modifyStatus (·.recordFailure f.message)

/-- Ends a tick. -/
def finishTick (o : Observer) (result : TickResult) (v : View) : TickStep :=
  let v := v.modifyCounters fun c => { c with ticks := c.ticks + 1 }
  let v := v.modifyStatus fun s => { s with window := v.progress.window }
  let v := o.recordResult result v
  .finished result (v.modifyShared (·.count (.ticks o.chain result.label)))

/-- Begins a tick. -/
def startTick (o : Observer) (v : View) : TickStep :=
  let v := v.setState .scanning
  match v.shared.watermark? o.chain with
  | none => .waiting .lookup v
  | some watermark => .waiting (.head watermark) v

/-- Gives the chain its first watermark and ends the tick. -/
def initializeAt (o : Observer) (height : UInt64) (v : View) : TickStep :=
  o.finishTick (.ok (.initialized height)) (v.modifyShared (·.setWatermark o.chain height))

/-- Moves the watermark to the end of a window all of whose entries are dealt with, and ends the
tick. The next window may be as large as the observer allows. -/
def applyWindow (o : Observer) (window : Window) (tally : Tally) (v : View) : TickStep :=
  match v.shared.advance o.chain window.last with
  | .error f => o.finishTick (.error f) v
  | .ok shared =>
    o.finishTick (.ok (.applied window tally)) ({ v with shared := shared }.setWindow o.maxWindow)

/-- Counts an entry that could not be decoded or relayed. -/
def countSkipped (o : Observer) (f : Fault) (v : View) : View :=
  v.modifyShared (·.count (.eventsSkipped o.chain f.category))

/-- What to do with a log entry. An entry whose topic is not in the schema is ignored; one that
cannot be decoded fails; the event of any other is submitted. -/
def classify (o : Observer) (entry : LogEntry) : EntryClass :=
  match decodeEntry o.chain o.schema entry with
  | .error (.unknownSignature _) => .ignored
  | .error f => .failed f
  | .ok event =>
    match RelayCall.forward.submission event with
    | .error f => .failed f
    | .ok submission => .submitted event submission

/-- Deals with the entries of a window up to the next one that has to be submitted. An entry that
fails is skipped, or ends the tick under the hold policy. -/
def relayEntries (o : Observer) (window : Window) (tally : Tally) :
    List LogEntry → View → TickStep
  | [], v => o.applyWindow window tally v
  | entry :: rest, v =>
    match o.classify entry with
    | .ignored => relayEntries o window { tally with ignored := tally.ignored + 1 } rest v
    | .submitted event submission => .waiting (.relay window tally event submission rest) v
    | .failed f =>
      match o.policy with
      | .hold =>
        o.finishTick (.ok (.held window tally.forwarded f.message)) (o.countSkipped f v)
      | .skip =>
        relayEntries o window { tally with skipped := tally.skipped + 1 } rest (o.countSkipped f v)

/-- Goes on after the ledger's answer to a submission. An event the ledger did not accept is
skipped, or ends the tick under the hold policy. -/
def afterSubmission (o : Observer) (window : Window) (tally : Tally) (event : Event)
    (rest : List LogEntry) (answer : Except Fault CorrelationId) (v : View) : TickStep :=
  let (result, shared) := v.shared.settle event answer
  let v := { v with shared := shared }
  match result with
  | .ok _ => o.relayEntries window { tally with forwarded := tally.forwarded + 1 } rest v
  | .error f =>
    match o.policy with
    | .hold => o.finishTick (.ok (.held window tally.forwarded f.message)) (o.countSkipped f v)
    | .skip =>
      o.relayEntries window { tally with skipped := tally.skipped + 1 } rest (o.countSkipped f v)

/-- Goes on after a head past the watermark was asked for. -/
def afterHead (o : Observer) (watermark : UInt64) (answer : Except Fault UInt64) (v : View) :
    TickStep :=
  match answer with
  | .error f => o.finishTick (.error f) v
  | .ok head =>
    let v := v.modifyStatus fun s => { s with lastHead := some head }
    let v := v.modifyShared (·.recordHead o.chain head)
    match Window.next? watermark head v.progress.window with
    | none => o.finishTick (.ok (.noNewBlocks head)) v
    | some window => .waiting (.fetch window) v

/-- Half of a window, but at least one block. -/
def halved (window : UInt64) : UInt64 := max (window / 2) 1

/-- Goes on after the logs of a window were asked for. If the endpoint does not answer for so many
blocks, the next window is half as large. -/
def afterFetch (o : Observer) (window : Window) (answer : Except Fault (List LogEntry)) (v : View) :
    TickStep :=
  match answer with
  | .ok entries => o.relayEntries window .zero entries (v.setState .applying)
  | .error f =>
    let v :=
      match f with
      | .rangeTooLarge .. => v.setWindow (halved v.progress.window)
      | _ => v
    o.finishTick (.error f) v

/-- Goes on with a tick after the answer it waited for. -/
def resumeTick (o : Observer) (v : View) : (p : Phase) → (p.request o).Reply → TickStep
  | .lookup, answer =>
    match Shared.recordedStart? answer with
    | some height => o.initializeAt height v
    | none => .waiting .firstHead v
  | .firstHead, answer =>
    match answer with
    | .ok height => o.initializeAt height v
    | .error f => o.finishTick (.error f) v
  | .head watermark, answer => o.afterHead watermark answer v
  | .fetch window, answer => o.afterFetch window answer v
  | .relay window tally event _ rest, answer => o.afterSubmission window tally event rest answer v

end Observer

end BridgeWatch
