import BridgeWatch.Text.Search
import BridgeWatch.Text.Similarity

/-!
# Options of the command line

The program takes options and nothing else. An option is written as `--name value`, `--name=value`,
`-n value`, `-nvalue` or `-n=value`; each is given at most once, and `--` ends them. `Options.read`
gives what the arguments ask for, or the first fault in them.

An option is only counted as given when the next one begins, or the arguments end, so a fault may be
found before an option in front of it is looked at. What the usage line shows depends on this.
-/

namespace BridgeWatch.CommandLine

/-- The options. -/
inductive Flag
  | config
  | chains
  | logLevel
  | checkConfig
  | help
  | version
  deriving DecidableEq, Repr

namespace Flag

/-- All options, in the order of the help. -/
def all : List Flag := [config, chains, logLevel, checkConfig, help, version]

/-- The long name of an option. -/
def long : Flag → String
  | config => "config"
  | chains => "chains"
  | logLevel => "log-level"
  | checkConfig => "check-config"
  | help => "help"
  | version => "version"

/-- The letter of an option. -/
def letter? : Flag → Option Char
  | config => some 'c'
  | chains => some 'n'
  | logLevel => some 'l'
  | checkConfig => none
  | help => some 'h'
  | version => some 'V'

/-- The name of the value that an option takes. -/
def valueName? : Flag → Option String
  | config => some "FILE"
  | chains => some "CHAINS"
  | logLevel => some "LEVEL"
  | checkConfig | help | version => none

/-- What an option is for. -/
def description : Flag → String
  | config => "Configuration file path"
  | chains => "Comma-separated list of configured chains to observe (default: all enabled)"
  | logLevel => "Log level (trace, debug, info, warn, error)"
  | checkConfig => "Validate the configuration and exit"
  | help => "Print help"
  | version => "Print version"

/-- An option as it is written. -/
def text (f : Flag) : String :=
  "--" ++ f.long ++
    match f.valueName? with
    | none => ""
    | some name => " <" ++ name ++ ">"

/-- The option with a long name. -/
def ofLong? (name : List Char) : Option Flag := all.find? fun f => f.long.toList == name

/-- The option with a letter. -/
def ofLetter? (c : Char) : Option Flag := all.find? fun f => f.letter? == some c

/-- The option that is most similar to a name, if one is similar enough. Of two that are equally
similar it is the later one. -/
def similar? (name : List Char) : Option Flag :=
  let scored := (all.map fun f => (f, Text.similarity name f.long.toList)).filter fun p => p.2 > 0.7
  (scored.foldl (fun best p =>
    match best with
    | none => some p
    | some b => if b.2 > p.2 then some b else some p) none).map (·.1)

end Flag

/-- The name of the program. -/
def programName : String := "crosslink-observer"

/-- The version of the program. -/
def programVersion : String := "0.1.0"

/-! ## Help -/

/-- The left column of an option's line in the help. -/
def Flag.column (f : Flag) : String :=
  match f.letter? with
  | none => "      " ++ f.text
  | some c => "  -" ++ String.singleton c ++ ", " ++ f.text

/-- The width of the help's left column. -/
def columnWidth : Nat := (Flag.all.map fun f => f.column.length).foldl max 0 + 2

/-- An option's line in the help. -/
def Flag.helpLine (f : Flag) : String :=
  f.column ++ "".pushn ' ' (columnWidth - f.column.length) ++ f.description

/-- The usage line, which shows the given options, or that there are some. -/
def usageLine (given : List Flag) : String :=
  "Usage: " ++ " ".intercalate
    (programName :: if given = [] then ["[OPTIONS]"] else given.eraseDups.map Flag.text)

/-- The help. -/
def helpLines : List String :=
  ["Crosslink Observer - Relays source-chain bridge events to the coordinating ledger", "",
    usageLine [], "", "Options:"] ++ Flag.all.map Flag.helpLine

/-- The line that tells the version. -/
def versionLine : String := programName ++ " " ++ programVersion

/-! ## Faults -/

/-- Why arguments cannot be read. -/
inductive UsageFault
  /-- An argument that is no option; the options given so far are known if it looks like a long
  one. -/
  | unexpected (argument : List Char) (similar : Option Flag) (given : List Flag)
  | repeated (flag : Flag)
  | missingValue (flag : Flag)
  | unneededValue (flag : Flag) (value : List Char) (given : List Flag)
  deriving DecidableEq, Repr

/-- The lines that tell of a fault. -/
def UsageFault.lines (f : UsageFault) : List String :=
  let quoted := fun (s : String) => "'" ++ s ++ "'"
  let body := match f with
    | unexpected argument similar given =>
      ["error: unexpected argument " ++ quoted (String.ofList argument) ++ " found", ""] ++
        (match similar with
        | none => []
        | some s => ["  tip: a similar argument exists: " ++ quoted ("--" ++ s.long), ""]) ++
        [usageLine given]
    | repeated flag =>
      ["error: the argument " ++ quoted flag.text ++ " cannot be used multiple times", "",
        usageLine []]
    | missingValue flag =>
      ["error: a value is required for " ++ quoted flag.text ++ " but none was supplied"]
    | unneededValue flag value given =>
      ["error: unexpected value " ++ quoted (String.ofList value) ++ " for " ++ quoted flag.text ++
        " found; no more were accepted", "", usageLine given]
  body ++ ["", "For more information, try '--help'."]

/-! ## Arguments -/

/-- An argument by its look. -/
inductive Argument
  /-- The end of the options. -/
  | terminator
  | long (name : List Char) (value : Option (List Char))
  /-- A letter, and what is written behind it. -/
  | short (letter : Char) (rest : List Char)
  | plain

/-- The sort of an argument. -/
def Argument.of : List Char → Argument
  | ['-', '-'] => .terminator
  | '-' :: '-' :: cs =>
    .long (cs.takeWhile (· ≠ '=')) (match cs.dropWhile (· ≠ '=') with
      | [] => none
      | _ :: value => some value)
  | '-' :: c :: cs => .short c cs
  | _ => .plain

/-- The options read so far. -/
structure Given where
  /-- Those that are counted, each with its value; a switch has an empty one. -/
  counted : List (Flag × List Char)
  /-- The last one, which may still wait for its value. -/
  pending : Option (Flag × Option (List Char))

namespace Given

/-- No options. -/
def none : Given := ⟨[], .none⟩

/-- The counted options. -/
def flags (g : Given) : List Flag := g.counted.map (·.1)

/-- Counts an option. One that is given again is not counted at all. -/
def count (g : Given) (f : Flag) (value : List Char) : Option UsageFault × Given :=
  if g.flags.contains f then
    (some (.repeated f), { g with counted := g.counted.filter fun c => c.1 != f })
  else (.none, { g with counted := g.counted ++ [(f, value)] })

/-- Counts the last option. -/
def settle (g : Given) : Option UsageFault × Given :=
  let settled := { g with pending := .none }
  match g.pending with
  | .none => (.none, settled)
  | some (f, .none) => (some (.missingValue f), settled)
  | some (f, some value) => settled.count f value

/-- The options that are counted when an argument is met that is no option. -/
def flagsAtFault (g : Given) : List Flag := g.settle.2.flags

/-- Counts the last option, unless there is something wrong with it. -/
def settled (g : Given) : Except UsageFault Given :=
  match g.settle with
  | (some f, _) => .error f
  | (.none, g) => .ok g

/-- Begins an option that takes a value, which may be attached to it. -/
def begin (g : Given) (f : Flag) (attached : Option (List Char)) : Except UsageFault Given := do
  let g ← g.settled
  match attached with
  | .none => return { g with pending := some (f, .none) }
  | some value =>
    match g.count f value with
    | (some fault, _) => throw fault
    | (.none, g) => return g

/-- The value of an option. -/
def value? (g : Given) (f : Flag) : Option String :=
  (g.counted.find? fun c => c.1 == f).map fun c => String.ofList c.2

end Given

/-- What the program is asked to do. -/
structure Options where
  /-- A settings file. -/
  config : Option String
  /-- A list of chains. -/
  chains : Option String
  logLevel : Option String
  /-- To check the settings and no more. -/
  checkConfig : Bool
  deriving DecidableEq, Repr

/-- What arguments ask for. -/
inductive Invocation
  | help
  | version
  | run (options : Options)
  deriving DecidableEq, Repr

namespace Options

/-- The options that are counted. -/
def ofGiven (g : Given) : Options :=
  ⟨g.value? .config, g.value? .chains, g.value? .logLevel, (g.value? .checkConfig).isSome⟩

/-- What is known after an option: what is asked for, or the options so far. -/
abbrev Progress := Except UsageFault (Invocation ⊕ Given)

/-- Reads an option that takes no value. -/
def readSwitch (g : Given) (f : Flag) : Progress := do
  let g ← g.settled
  match f with
  | .help => return .inl .help
  | .version => return .inl .version
  | _ =>
    match g.count f [] with
    | (some fault, _) => throw fault
    | (none, g) => return .inr g

/-- Reads an option with a long name. -/
def readLong (g : Given) (name : List Char) (value : Option (List Char)) : Progress :=
  match Flag.ofLong? name with
  | none =>
    let similar := Flag.similar? name
    .error (.unexpected ('-' :: '-' :: name) similar (g.flagsAtFault ++ similar.toList))
  | some f =>
    match f.valueName?, value with
    | some _, _ => (g.begin f value).map .inr
    | none, none => readSwitch g f
    | none, some v => .error (.unneededValue f v (g.flags ++ [f]))

/-- Reads an option with a letter. What follows a switch are further letters. -/
def readShort (g : Given) : (letter : Char) → (rest : List Char) → Progress
  | c, rest =>
    match Flag.ofLetter? c with
    | none => .error (.unexpected ['-', c] none [])
    | some f =>
      match f.valueName? with
      | some _ =>
        let attached := match rest with
          | [] => none
          | '=' :: value => some value
          | value => some value
        (g.begin f attached).map .inr
      | none =>
        match readSwitch g f, rest with
        | .ok (.inr g), c :: rest => readShort g c rest
        | p, _ => p
termination_by _ rest => rest.length

/-- Reads arguments behind some options. -/
def readFrom (g : Given) : List (List Char) → Except UsageFault Invocation
  | [] => g.settled.map fun g => .run (ofGiven g)
  | a :: as =>
    let goOn : Progress → Except UsageFault Invocation
      | .error f => .error f
      | .ok (.inl i) => .ok i
      | .ok (.inr g) => readFrom g as
    match Argument.of a with
    | .terminator =>
      match as with
      | [] => g.settled.map fun g => .run (ofGiven g)
      | b :: _ => .error (.unexpected b none [])
    | .long name value => goOn (readLong g name value)
    | .short c rest => goOn (readShort g c rest)
    | .plain =>
      match g.pending with
      | some (f, none) => readFrom { g with pending := some (f, some a) } as
      | _ => .error (.unexpected a none [])

/-- Reads arguments. -/
def read (args : List String) : Except UsageFault Invocation :=
  readFrom .none (args.map String.toList)

end Options

end BridgeWatch.CommandLine
