import BridgeWatch.Fault
import BridgeWatch.Schema.Signature

/-!
# Event schemas

A schema holds one signature for each kind of event a bridge contract emits, under four different
topics. `Schema.ofSettings` builds it from the four configured texts: the first text, in the order
of the kinds, that is no signature of its kind or has a topic already taken decides the fault.
-/

namespace BridgeWatch

/-- The configured signatures, one for each kind of event. -/
structure SchemaSettings where
  deposit : String
  burn : String
  release : String
  mintConfirmation : String
  deriving DecidableEq, Repr

namespace SchemaSettings

/-- The signatures of the canonical bridge contract. -/
def standard : SchemaSettings where
  deposit := "LockSend(address,string,uint256,string,bytes)"
  burn := "BurnSend(address,address,uint256,uint256,string)"
  release := "Unlock(address,uint256)"
  mintConfirmation := "MMinted(address,uint256,bytes32)"

instance : Inhabited SchemaSettings := ⟨standard⟩

/-- The configured signature of a kind of event. -/
def text (s : SchemaSettings) : EventKind → String
  | .deposit => s.deposit
  | .burn => s.burn
  | .release => s.release
  | .mintConfirmation => s.mintConfirmation

end SchemaSettings

/-- Why four texts make no schema. -/
inductive SchemaFault
  | signature (cause : SignatureFault)
  | sharedTopic (first second : EventKind) (canonical : String)
  deriving Repr

/-- The wording of a refused schema. -/
def SchemaFault.message : SchemaFault → String
  | .signature cause => cause.message
  | .sharedTopic first second canonical =>
    first.name ++ " and " ++ second.name ++ " share the signature " ++ canonical

/-- A refused schema as a fault of the program. -/
def SchemaFault.toFault (f : SchemaFault) : Fault := .invalidSchema f.message

/-- The signatures of the events that a bridge contract emits. -/
structure Schema where
  signatures : List Signature
  deriving Repr, Inhabited

namespace Schema

/-- The signature with a given topic. -/
def lookup (s : Schema) (topic : Hash) : Option Signature :=
  s.signatures.find? fun sig => sig.topic == topic

/-- The signature of a kind of event. -/
def signature (s : Schema) (kind : EventKind) : Option Signature :=
  s.signatures.find? fun sig => sig.kind == kind

/-- Adds the signature of one more kind of event. -/
def add (topicOf : String → Hash) (s : Schema) (kind : EventKind) (text : String) :
    Except SchemaFault Schema :=
  match Signature.parseWith topicOf kind text.toList with
  | .error cause => .error (.signature cause)
  | .ok sig =>
    match s.lookup sig.topic with
    | some known => .error (.sharedTopic known.kind kind sig.canonical)
    | none => .ok ⟨s.signatures ++ [sig]⟩

/-- Adds the signatures of some kinds of events. -/
def addAll (topicOf : String → Hash) (settings : SchemaSettings) (s : Schema) :
    List EventKind → Except SchemaFault Schema
  | [] => .ok s
  | kind :: kinds =>
    match s.add topicOf kind (settings.text kind) with
    | .error f => .error f
    | .ok s => addAll topicOf settings s kinds

/-- The schema of four configured signatures; `topicOf` hashes their canonical texts. -/
def ofSettingsWith (topicOf : String → Hash) (settings : SchemaSettings) :
    Except SchemaFault Schema :=
  addAll topicOf settings ⟨[]⟩ EventKind.all

/-- The schema of four configured signatures. -/
def ofSettings (settings : SchemaSettings) : Except SchemaFault Schema :=
  ofSettingsWith Signature.topicOf settings

end Schema

end BridgeWatch
