import BridgeWatch.Abi.TypeName
import BridgeWatch.Schema.Declaration
import BridgeWatch.Schema.Field
import BridgeWatch.Text.Utf8
import BridgeWatch.Words

/-!
# Event signatures

A signature such as `event Unlock(address to, uint256 amount)` names an event and declares its
parameters. `Signature.parse` reads one for a kind of event: the word `event`, parameter names and
white space are dropped, the types are read, and the parameters have to be able to carry the fields
of the kind. What is left is the canonical text, `Unlock(address,uint256)`, whose hash is the topic
of the event's logs.

The hash function is a parameter of `Signature.parseWith`, so that statements about signatures need
nothing of it.
-/

namespace BridgeWatch

/-- An event signature that fits a kind of event. -/
structure Signature where
  kind : EventKind
  name : String
  params : List Abi.ParamType
  /-- The name and the canonical texts of the types. -/
  canonical : String
  /-- The hash of the canonical text. -/
  topic : Hash
  deriving Repr, Inhabited

/-- Why a text is no signature for a kind of event. Each cause carries the text. -/
inductive SignatureFault
  | missingOpening (text : List Char)
  | missingClosing (text : List Char)
  | invalidName (text : List Char)
  | indexed (declaration text : List Char)
  | invalidType (name text : List Char) (cause : Abi.TypeNameFault)
  | parameterCount (kind : EventKind) (text : List Char) (found : Nat)
  | wrongType (index : Nat) (text : List Char) (field : Field) (found : Abi.ParamType)
  deriving Repr

/-- The wording of a refused signature. -/
def SignatureFault.message : SignatureFault → String
  | .missingOpening text => "missing '(' in " ++ String.ofList text
  | .missingClosing text => "missing ')' in " ++ String.ofList text
  | .invalidName text => "invalid event name in " ++ String.ofList text
  | .indexed declaration text =>
    "indexed parameter " ++ String.ofList declaration ++ " in " ++ String.ofList text ++
      " is not carried in the log data"
  | .invalidType name text cause =>
    "invalid type " ++ String.ofList name ++ " in " ++ String.ofList text ++ ": " ++ cause.message
  | .parameterCount kind text found =>
    kind.name ++ " expects " ++ Text.decimal (fieldLayout kind).length ++ " parameters, " ++
      String.ofList text ++ " has " ++ Text.decimal found
  | .wrongType index text field found =>
    "parameter " ++ Text.decimal index ++ " of " ++ String.ofList text ++ " cannot carry " ++
      field.name ++ ": found " ++ String.ofList found.text

namespace Signature

/-- A character that may stand in the name of an event: an ASCII letter, a digit or `_`. -/
def isNameChar (c : Char) : Bool := c.isAlphanum || c == '_'

/-- A signature's text without the white space around it and the word `event` in front. -/
def normalize (cs : List Char) : List Char :=
  let cs := Text.trim cs
  Text.trim ((Text.dropStart? "event ".toList cs).getD cs)

/-- Reads one declaration of a signature's text: the type that its first word names. A word
`indexed` behind it is refused, for the value of such a parameter is not in the data of the log. -/
def readDeclaration (text declaration : List Char) : Except SignatureFault Abi.ParamType :=
  let ws := Text.words (Declaration.compact declaration)
  let name := ws.headD []
  if ws.tail.contains "indexed".toList then .error (.indexed declaration text)
  else
    match Abi.ParamType.read name with
    | .ok t => .ok t
    | .error cause => .error (.invalidType name text cause)

/-- The first parameter, counted from `index`, that cannot carry its field. -/
def misfit? (text : List Char) (index : Nat) :
    List Field → List Abi.ParamType → Option SignatureFault
  | f :: fs, t :: ts =>
    if f.accepts t then misfit? text (index + 1) fs ts else some (.wrongType index text f t)
  | _, _ => none

/-- Checks that parameters can carry the fields of a kind of event. -/
def checkLayout (kind : EventKind) (text : List Char) (params : List Abi.ParamType) :
    Except SignatureFault Unit :=
  if params.length ≠ (fieldLayout kind).length then
    .error (.parameterCount kind text params.length)
  else
    match misfit? text 0 (fieldLayout kind) params with
    | some fault => .error fault
    | none => .ok ()

/-- The canonical text of an event. -/
def canonicalText (name : List Char) (params : List Abi.ParamType) : List Char :=
  name ++ '(' :: (Abi.joinCommas (params.map Abi.ParamType.text) ++ [')'])

/-- The parts of a signature's text: the name in front of the first parenthesis and the declarations
up to the last one. -/
def parts (text : List Char) : Except SignatureFault (List Char × List Char) :=
  match text.dropWhile (· ≠ '(') with
  | [] => .error (.missingOpening text)
  | _ :: inner =>
    if text.getLast? ≠ some ')' then .error (.missingClosing text)
    else
      let name := Text.trim (text.takeWhile (· ≠ '('))
      if name = [] ∨ ¬ name.all isNameChar then .error (.invalidName text)
      else .ok (name, inner.dropLast)

/-- Reads a signature for a kind of event; `topicOf` hashes its canonical text. -/
def parseWith (topicOf : String → Hash) (kind : EventKind) (cs : List Char) :
    Except SignatureFault Signature := do
  let text := normalize cs
  let (name, inner) ← parts text
  let params ← Abi.collect ((Declaration.splitTopLevel inner).map (readDeclaration text))
  checkLayout kind text params
  let canonical := String.ofList (canonicalText name params)
  return ⟨kind, String.ofList name, params, canonical, topicOf canonical⟩

/-- The topic of an event: the hash of its canonical text. -/
def topicOf (canonical : String) : Hash :=
  Hash.ofBytes (Keccak.hash (Text.Utf8.encode canonical.toList))

/-- Reads a signature for a kind of event. -/
def parse (kind : EventKind) (s : String) : Except SignatureFault Signature :=
  parseWith topicOf kind s.toList

end Signature

end BridgeWatch
