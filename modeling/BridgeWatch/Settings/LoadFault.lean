import BridgeWatch.Settings.Tree
import BridgeWatch.Text.Quoted

/-!
# Settings that cannot be loaded

Why sources do not give settings, with the wording of each cause. A value of the wrong sort is
reported with its key, which is put together on the way out (`LoadFault.within`), and with its
source.
-/

namespace BridgeWatch.Settings

/-- Why sources do not give settings. -/
inductive LoadFault
  /-- There is no such file. -/
  | fileNotFound (name : String)
  /-- The file's name does not tell its format. -/
  | unknownFormat (path : String)
  /-- The file's text is not of its format. -/
  | unreadable (cause file : String)
  /-- A value that cannot be converted to what its key needs. -/
  | mismatch (found expected key : String) (origin : Option String)
  /-- A value that has no parts where parts are needed. -/
  | misshapen (found expected : String)
  /-- A name that is none of those that a choice has. -/
  | unknownChoice (choice name : String)
  /-- A value that names nothing where a choice has to be made. -/
  | noChoice (choice : String)
  deriving DecidableEq, Repr

namespace LoadFault

/-- The wording of settings that cannot be loaded. -/
def message : LoadFault → String
  | fileNotFound name => "configuration file \"" ++ name ++ "\" not found"
  | unknownFormat path => "configuration file \"" ++ path ++ "\" is not of a registered file format"
  | unreadable cause file => cause ++ " in " ++ file
  | mismatch found expected key origin =>
    "invalid type: " ++ found ++ ", expected " ++ expected ++
      (if key = "" then "" else " for key `" ++ key ++ "`") ++
      match origin with
      | none => ""
      | some o => " in " ++ o
  | misshapen found expected => "invalid type: " ++ found ++ ", expected " ++ expected
  | unknownChoice choice name => "enum " ++ choice ++ " does not have variant constructor " ++ name
  | noChoice choice =>
    "value of enum " ++ choice ++
      " should be represented by either string or table with exactly one key"

/-- The key of a part whose place within the value of a step has the given key. -/
def keyBehind (step : Tree.Step) (key : String) : String :=
  match step with
  | .name s =>
    match key.toList with
    | [] | '[' :: _ => s ++ key
    | _ => s ++ "." ++ key
  | .index n => "[" ++ Text.signedDecimal n ++ "]" ++ key

/-- A fault as seen from outside: a step leads to the value that has it. -/
def within (step : Tree.Step) : LoadFault → LoadFault
  | mismatch found expected key origin => mismatch found expected (keyBehind step key) origin
  | f => f

end LoadFault

end BridgeWatch.Settings
