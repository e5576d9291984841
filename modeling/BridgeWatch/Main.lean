import BridgeWatch.CommandLine.Session

/-!
# The program

Reads the arguments, the environment and the settings files, and runs a session. Lean has no
network of its own, so the observers of this program work over one on which no reply ever comes;
they show how the program behaves while its remote ends are out of reach. A session ends when
standard input does.
-/

namespace BridgeWatch.Program

open CommandLine

/-- The text of a file, if it can be read. -/
def readText? (name : String) : IO (Option String) := do
  try
    return some (← IO.FS.readFile name)
  catch _ =>
    return none

/-- The environment variables. -/
def environment : IO (List (String × String)) := do
  let content ← try IO.FS.readBinFile "/proc/self/environ" catch _ => pure .empty
  let entries := ((String.fromUTF8? content).getD "").splitOn "\x00"
  return entries.filterMap fun e =>
    match e.splitOn "=" with
    | name :: value => if value = [] then none else some (name, "=".intercalate value)
    | [] => none

/-- The sources of settings as they stand. The observers share one thread. -/
def sources (args : List String) : IO Settings.Sources := do
  let named := match Options.read args with
    | .ok (.run o) => o.config
    | _ => none
  let found : Settings.Sources :=
    ⟨(← IO.currentDir).toString, [], ← environment, named, 1⟩
  let files ← found.candidates.filterMapM fun name =>
    return (← readText? name).map fun content => (name, content)
  return { found with files }

/-- Prints lines. -/
def printLines (out err : List String) : IO Unit := do
  for line in err do IO.eprintln line
  for line in out do IO.println line
  (← IO.getStdout).flush

/-- Prints what is on the console of observers at work, and clears it. -/
def printed (w : Watch) : IO Watch := do
  printLines w.console.out w.console.err
  return { w with console := w.console.cleared }

/-- Milliseconds between two summaries of the observers' health. -/
def summaryInterval : Nat := 60000

/-- Milliseconds between two looks at the clock. -/
def pause : UInt32 := 50

/-- Lets observers work until they are to stop. -/
partial def work (stopped : IO Bool) (start summary : Nat) (w : Watch) : IO Watch := do
  if ← stopped then return w
  let now := (← IO.monoMsNow) - start
  let (w, ()) := w.runDue (.silent Unit) now ()
  let isDue := summary ≤ now
  let w ← printed (if isDue then w.summarize else w)
  IO.sleep pause
  work stopped start (if isDue then summary + summaryInterval else summary) w

/-- Waits for the end of standard input. -/
partial def awaitEnd (input : IO.FS.Stream) : IO Unit := do
  unless (← input.getLine).isEmpty do awaitEnd input

/-- Runs a session and gives its code. -/
def run (args : List String) : IO UInt32 := do
  let report ← match Session.begin (← sources args) args with
    | .ended report => pure report
    | .watching w =>
      let w ← printed w
      let ended ← (awaitEnd (← IO.getStdin)).asTask
      let start ← IO.monoMsNow
      let w ← work (IO.hasFinished ended) start summaryInterval w
      pure (w.stop ((← IO.monoMsNow) - start))
  printLines report.out report.err
  return report.code

end BridgeWatch.Program

def main (args : List String) : IO UInt32 := BridgeWatch.Program.run args
