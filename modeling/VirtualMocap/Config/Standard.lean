import VirtualMocap.Config.Load
import VirtualMocap.Json.Loose
import VirtualMocap.Yaml.Value

/-!
# The program's loaders

The loaders the executable runs with (`Loaders.standard`): a YAML document whose top value
is a mapping gives the configuration (`yamlDocument`), and settings are filled from it
loosely (`Json.Loose`), section by section, with ports range-checked after they are read.
-/

namespace VirtualMocap

namespace Config

open Json

def section? {α : Type} (read : List (String × Json) → Checked α) : Json → Checked α
  | .obj fields => read fields
  | _ => .fail .modelType

def readPort (lowest : Int) (v : Json) : Checked Int := do
  let n ← looseInt v
  if lowest ≤ n ∧ n ≤ 65535 then pure n
  else .fail (.valueError s!"port must be in [{lowest}, 65535]")

def readEndpoint (lowest : Int) (defaults : Endpoint) (fields : List (String × Json)) :
    Checked Endpoint := do
  let (ip, port) ← both (fieldOr fields "ip" (some defaults.ip) strictString)
    (fieldOr fields "port" (some defaults.port) (readPort lowest))
  pure { ip, port }

/-- Read one of the given texts exactly; a text holding a surrogate cannot be compared
with them at all. -/
def readLevel : Json → Checked LogLevel
  | .str s =>
    if Text.hasSurrogate s then .fail .stringUnicode else
    match LogLevel.ofName? s with
    | some l => .ok l
    | none => .fail .literalError
  | _ => .fail .literalError

def readPath : Json → Checked String
  | .str s => .ok (normalPath s)
  | _ => .fail .pathType

def sectionField {α : Type} (fields : List (String × Json)) (k : String) (default : α)
    (read : List (String × Json) → Checked α) : Checked α :=
  fieldOr fields k (some default) (section? read)

def PerformerSettings.read (fields : List (String × Json)) : Checked PerformerSettings := do
  let d : PerformerSettings := {}
  let (target, bind) ← both (sectionField fields "target" d.target (readEndpoint 1 d.target))
    (sectionField fields "bind" d.bind (readEndpoint 0 d.bind))
  pure { target, bind }

def MarionetteSettings.read (fields : List (String × Json)) : Checked MarionetteSettings := do
  let d : MarionetteSettings := {}
  let (bind, queueMaxsize) ← both (sectionField fields "bind" d.bind (readEndpoint 0 d.bind))
    (fieldOr fields "queue_maxsize" (some d.queueMaxsize) fun v => looseInt v >>= bounded (some 1) none)
  pure { bind, queueMaxsize }

def CodecSettings.read (fields : List (String × Json)) : Checked CodecSettings := do
  let maxBundleDepth ← fieldOr fields "max_bundle_depth" (some 16) fun v =>
    looseInt v >>= bounded (some 1) none
  pure { maxBundleDepth }

/-- Read the logging section; the key `json` is read before `json_logs`. -/
def LoggingSettings.read (fields : List (String × Json)) : Checked LoggingSettings := do
  let jsonField : Checked Bool :=
    match lookup fields "json" with
    | some v => (looseBool v).under (.key "json")
    | none => fieldOr fields "json_logs" (some true) looseBool
  let (level, jsonLogs) ← both (fieldOr fields "level" (some .info) readLevel) jsonField
  pure { level, jsonLogs }

def RecorderSettings.read (fields : List (String × Json)) : Checked RecorderSettings := do
  let output ← fieldOr fields "output" (some "out.vmc.jsonl") readPath
  pure { output }

def DemoSettings.read (fields : List (String × Json)) : Checked DemoSettings := do
  let fps ← fieldOr fields "fps" (some 60) fun v => looseInt v >>= bounded (some 1) (some 240)
  pure { fps }

def Settings.read (fields : List (String × Json)) : Checked Settings := do
  let ((performer, marionette, codec), (logging, recorder, demo)) ←
    both (both (sectionField fields "performer" {} PerformerSettings.read)
        (both (sectionField fields "marionette" {} MarionetteSettings.read)
          (sectionField fields "codec" {} CodecSettings.read)))
      (both (sectionField fields "logging" {} LoggingSettings.read)
        (both (sectionField fields "recorder" {} RecorderSettings.read)
          (sectionField fields "demo" {} DemoSettings.read)))
  pure { performer, marionette, codec, logging, recorder, demo }

/-- A YAML text as a configuration document. -/
def yamlDocument (text : String) : Except Yaml.YamlError Document := do
  match ← Yaml.load text with
  | none => return .none
  | some d =>
    match d.rootValue with
    | .null => return .none
    | .map _ =>
      match d.toJson with
      | .obj fields => return .mapping fields
      | _ => return .mapping []
    | v => return .other v.typeName

/-- The program's loaders. -/
def Loaders.standard : Loaders := ⟨yamlDocument, Settings.read⟩

end Config

end VirtualMocap
