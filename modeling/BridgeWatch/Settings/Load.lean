import BridgeWatch.Json.Reader
import BridgeWatch.Settings.Read
import BridgeWatch.Settings.Toml
import BridgeWatch.Text.Blank
import BridgeWatch.Text.Search

/-!
# Loading settings

Settings come from up to four sources, each laid over those before it: the file `config/default`,
the file of the environment's name (`config/development` if nothing names one), a file named on the
command line, and environment variables. The first two may be missing.

A file is found by its name, or by its name with the ending of a known format. The variable
`CROSSLINK__CHAINS__GOERLI__MAX_WINDOW` gives `chains.goerli.max_window` a value, in whatever case
it is written.
-/

namespace BridgeWatch.Settings

/-- Where settings are looked for. -/
structure Sources where
  /-- The directory that file names are relative to. -/
  directory : String
  /-- The files, by name. -/
  files : List (String × String)
  /-- The environment variables. -/
  environment : List (String × String)
  /-- The file named on the command line. -/
  named : Option String
  /-- The number of processors, which is the default number of threads. -/
  processors : UInt64

namespace Sources

/-! ## Files -/

/-- The formats of settings files. -/
inductive Format
  | toml
  | json
  deriving DecidableEq, Repr

/-- The format that a file's ending tells. -/
def Format.ofEnding? : List Char → Option Format
  | ['t', 'o', 'm', 'l'] => some .toml
  | ['j', 's', 'o', 'n'] => some .json
  | _ => none

/-- The endings of the known formats. -/
def endings : List String := [".toml", ".json"]

/-- The parts of a file name between slashes that matter. -/
def nameParts (name : String) : List (List Char) :=
  (Text.pieces (· == '/') name.toList).filter fun p => !p.isEmpty && p != ['.']

/-- A file name starts at the root of all directories. -/
def isAbsolute (name : String) : Bool := name.toList.head? = some '/'

/-- The name that parts make up. -/
def joined (absolute : Bool) (parts : List (List Char)) : String :=
  (if absolute then "/" else "") ++ "/".intercalate (parts.map String.ofList)

/-- A file name in its shortest form. -/
def shortened (name : String) : String := joined (isAbsolute name) (nameParts name)

/-- The ending of a file name: what follows the last point of its last part, which must not be the
first character. -/
def endingOf (name : String) : List Char :=
  let last := ((nameParts name).getLast?).getD []
  let ending := (last.reverse.takeWhile (· ≠ '.')).reverse
  if ending.length + 1 < last.length then ending else []

/-- A directory is known by the files in it. -/
def hasDirectory (s : Sources) (name : String) : Bool :=
  s.files.any fun f => (Text.dropStart? (name ++ "/").toList f.1.toList).isSome

/-- The name without steps back: `..` takes back the part in front of it, which must be a
directory. The parts in front are given in reverse. -/
def stepBack? (s : Sources) (absolute : Bool) (before : List (List Char)) :
    List (List Char) → Option String
  | [] => some (joined absolute before.reverse)
  | ['.', '.'] :: parts =>
    match before with
    | [] => none
    | _ :: earlier =>
      if s.hasDirectory (joined absolute before.reverse) then stepBack? s absolute earlier parts
      else none
  | part :: parts => stepBack? s absolute (part :: before) parts

/-- The text of a file. -/
def text? (s : Sources) (name : String) : Option String :=
  (s.stepBack? (isAbsolute name) [] (nameParts name)).bind fun file =>
    (s.files.find? fun f => f.1 == file).map (·.2)

/-- The tree of a file's text. -/
def readAs (format : Format) (name content : String) : Except LoadFault Tree :=
  match format with
  | .toml => (Toml.read (some name) content).mapError fun f => .unreadable f.message name
  | .json =>
    match Json.parse content with
    | .ok j => .ok (.ofJson (some name) j)
    | .error f => .error (.unreadable (f.message content.toList) name)

/-- The file that a name means: the one of that name, or else the first one whose name has the
ending of a format more. -/
def find (s : Sources) (name : String) : Except LoadFault (Format × String × String) :=
  match s.text? name with
  | some content =>
    match Format.ofEnding? (endingOf name) with
    | some format => .ok (format, shortened name, content)
    | none => .error (.unknownFormat (s.directory ++ "/" ++ name))
  | none =>
    let candidates := endings.filterMap fun ending =>
      let name := shortened name ++ ending
      (s.text? name).bind fun content =>
        (Format.ofEnding? (endingOf name)).map fun format => (format, name, content)
    match candidates with
    | c :: _ => if nameParts name = [] then .error (.fileNotFound name) else .ok c
    | [] => .error (.fileNotFound name)

/-- Lays a file over a tree. -/
def overlayFile (s : Sources) (required : Bool) (name : String) (root : Tree) :
    Except LoadFault Tree :=
  match s.find name with
  | .error f => if required then .error f else .ok root
  | .ok (format, name, content) => (readAs format name content).map root.overlay

/-! ## Variables -/

/-- What the names of variables that give settings start with, in lowercase. -/
def variableStart : List Char := "crosslink__".toList

/-- A text in which every `__` is a point. -/
def pointed : List Char → List Char
  | '_' :: '_' :: cs => '.' :: pointed cs
  | c :: cs => c :: pointed cs
  | [] => []

/-- The name of the setting that a variable gives, if it gives one. -/
def settingOf? (name : String) : Option String :=
  (Text.dropStart? variableStart (Text.lower name.toList)).map fun cs =>
    String.ofList (pointed cs)

/-- Lays the variables over a tree. Their values are texts. -/
def overlayVariables (s : Sources) (root : Tree) : Tree :=
  s.environment.foldl (fun t v =>
    match settingOf? v.1 with
    | some name => t.assignNamed name (.text (some "the environment") v.2)
    | none => t) root

/-! ## All sources -/

/-- The value of a variable. -/
def valueOf? (s : Sources) (name : String) : Option String :=
  (s.environment.find? fun v => v.1 == name).map (·.2)

/-- The file of the environment's name. -/
def environmentFile (s : Sources) : String :=
  "config/" ++ (s.valueOf? "ENVIRONMENT").getD "development"

/-- The files that the settings of all sources may be read from. -/
def candidates (s : Sources) : List String :=
  (["config/default", s.environmentFile] ++ s.named.toList).flatMap fun name =>
    shortened name :: endings.map (shortened name ++ ·)

/-- The tree of all sources. -/
def tree (s : Sources) : Except LoadFault Tree := do
  let t ← s.overlayFile false "config/default" .empty
  let t ← s.overlayFile false s.environmentFile t
  let t ← match s.named with
    | none => pure t
    | some name => s.overlayFile true name t
  return s.overlayVariables t

/-- The settings of all sources. -/
def load (s : Sources) : Except LoadFault Settings := s.tree.bind (Settings.ofTree s.processors)

end Sources

end BridgeWatch.Settings
