import BridgeWatch.Text.Blank
import BridgeWatch.Text.Lowercase

/-!
# The program's log

A line of the log has a level, a message and fields. A filter decides which lines are shown: each
of its directives lets lines of a target through up to a level, and the one with the longest target
that fits counts.
-/

namespace BridgeWatch.CommandLine

/-- How much a line of the log matters. -/
inductive LogLevel
  | error
  | warn
  | info
  | debug
  | trace
  deriving DecidableEq, Repr

namespace LogLevel

/-- All levels, from what matters most on. -/
def all : List LogLevel := [error, warn, info, debug, trace]

/-- The name of a level in a line. -/
def name : LogLevel → String
  | error => "ERROR"
  | warn => "WARN"
  | info => "INFO"
  | debug => "DEBUG"
  | trace => "TRACE"

/-- The place of a level among all of them. -/
def rank (l : LogLevel) : Nat := all.idxOf l

/-- The level that a word names, in any case. -/
def ofWord? (s : String) : Option LogLevel :=
  all.find? fun l => Text.lowered l.name == Text.lowered s

end LogLevel

/-- What a filter says about some targets. -/
structure LogDirective where
  /-- How the targets start that the directive is about. -/
  target : List Char
  /-- The directive is only about lines inside certain spans of work, and the program's own are in
  none. -/
  inSpan : Bool
  /-- The level up to which lines are shown, if any are. -/
  level : Option LogLevel
  deriving DecidableEq, Repr

namespace LogDirective

/-- The level that a word of a directive names: `off`, a number up to five, or a level's name. -/
def level? (cs : List Char) : Option (Option LogLevel) :=
  match cs with
  | ['0'] => some none
  | ['1'] => some (some .error)
  | ['2'] => some (some .warn)
  | ['3'] => some (some .info)
  | ['4'] => some (some .debug)
  | ['5'] => some (some .trace)
  | _ =>
    if cs.map Char.toLower = ['o', 'f', 'f'] then some none
    else (LogLevel.all.find? fun l => l.name.toList == cs.map Char.toUpper).map some

/-- A character of a target's name. -/
def isTargetChar (c : Char) : Bool :=
  c.isAlphanum || c == '_' || c == ':' || c == '-' || 0x80 ≤ c.toNat

/-- The directive for the lines that a name stands for: a target, a span in brackets, or both. -/
def named? (level : Option LogLevel) (cs : List Char) : Option LogDirective :=
  let target := cs.takeWhile isTargetChar
  match cs.dropWhile isTargetChar with
  | [] => if target = [] then none else some ⟨target, false, level⟩
  | '[' :: span =>
    if span.getLast? = some ']' ∧ !span.dropLast.contains ']' then some ⟨target, true, level⟩
    else none
  | _ => none

/-- Reads a directive: a level, a name, or a name and `=` with or without a level behind it. -/
def read? (cs : List Char) : Option LogDirective :=
  match level? cs with
  | some level => some ⟨[], false, level⟩
  | none =>
    match named? (some .trace) cs, cs.reverse.dropWhile (· ≠ '=') with
    | some d, _ => some d
    | none, [] => none
    | none, _ :: name =>
      match (cs.reverse.takeWhile (· ≠ '=')).reverse with
      | [] => named? (some .trace) name.reverse
      | word => (level? word).bind fun level => named? level name.reverse

end LogDirective

/-- Which lines are shown. -/
structure LogFilter where
  directives : List LogDirective
  deriving DecidableEq, Repr

namespace LogFilter

/-- The target of the program's own lines. -/
def ownTarget : String := "crosslink_observer"

/-- The filter that shows the program's own lines up to a level. -/
def upTo (level : LogLevel) : LogFilter := ⟨[⟨ownTarget.toList, false, some level⟩]⟩

/-- Reads a filter: directives between commas. If there are none, only errors are shown. -/
def read? (s : String) : Option LogFilter :=
  match (Text.pieces (· == ',') s.toList).filter fun p => !p.isEmpty with
  | [] => some ⟨[⟨[], false, some .error⟩]⟩
  | ps => (ps.mapM LogDirective.read?).map (⟨·⟩)

/-- The directive that counts for a target: of those with the longest target that fits, the last. -/
def directive? (f : LogFilter) (target : String) : Option LogDirective :=
  (f.directives.filter fun d => !d.inSpan && d.target.isPrefixOf target.toList).foldl
    (fun best d =>
      match best with
      | none => some d
      | some b => if d.target.length < b.target.length then some b else some d) none

/-- The program's own lines of a level are shown. -/
def shows (f : LogFilter) (level : LogLevel) : Bool :=
  match (f.directive? ownTarget).bind (·.level) with
  | none => false
  | some most => level.rank ≤ most.rank

end LogFilter

/-- A line of the log. -/
structure LogLine where
  level : LogLevel
  message : String
  fields : List (String × String)
  deriving DecidableEq, Repr

/-- The text of a line. -/
def LogLine.text (l : LogLine) : String :=
  l.level.name ++ " " ++ LogFilter.ownTarget ++ ": " ++
    " ".intercalate (l.message :: l.fields.map fun f => f.1 ++ "=" ++ f.2)

end BridgeWatch.CommandLine
