import VirtualMocap.Cli.Arguments
import VirtualMocap.Config.Load

/-!
# The command line of `vmc`

`vmc` takes `--config`, `--log-level` and `--log-format`, then one of the commands
`marionette`, `performer`, `record` and `replay` with options of its own.
`Invocation.read` reads a command line; the options that name settings become overrides
(`Invocation.overrides`), which win over the configuration file (`Invocation.settings`).
-/

namespace VirtualMocap

namespace Cli

open Json

/-- What an option of one value was given: its value, or no values at all (the separator
`--` attached to the option, as in `--fps=--`). -/
inductive Given (α : Type) where
  | value (a : α)
  | noValues
  deriving Repr

def Given.value? {α : Type} : Given α → Option α
  | .value a => some a
  | .noValues => none

/-- A given value in a configuration document: no values are an empty list. -/
def Given.toJson {α : Type} (f : α → Json) : Given α → Json
  | .value a => f a
  | .noValues => .arr []

/-- A command with the options given to it. -/
inductive Command where
  | marionette (bindIp : Option (Given String)) (bindPort : Option (Given Int))
  | performer (targetIp : Option (Given String)) (targetPort : Option (Given Int))
      (fps : Option (Given Int)) (duration : Option (Given Binary64))
  | record (bindIp : Option (Given String)) (bindPort : Option (Given Int))
      (output : Option (Given String)) (duration : Option (Given Binary64))
  | replay (input : String) (targetIp : Option (Given String)) (targetPort : Option (Given Int))
      (loop : Bool)
  deriving Repr

def Command.name : Command → String
  | .marionette .. => "marionette"
  | .performer .. => "performer"
  | .record .. => "record"
  | .replay .. => "replay"

/-- A command line, read. -/
structure Invocation where
  config : Option (Given String)
  logLevel : Option (Given String)
  logFormat : Option (Given String)
  command : Command
  deriving Repr

def textOpt (flag dest : String) : Opt := ⟨[flag], dest, .store .text []⟩

def intOpt (flag dest : String) : Opt := ⟨[flag], dest, .store .int []⟩

def floatOpt (flag dest : String) : Opt := ⟨[flag], dest, .store .float []⟩

def pathOpt (flag dest : String) : Opt := ⟨[flag], dest, .store .path []⟩

def mainGrammar : Grammar where
  prog := "vmc"
  opts := [pathOpt "--config" "config",
    ⟨["--log-level"], "log_level", .store .text ["DEBUG", "INFO", "WARNING", "ERROR"]⟩,
    ⟨["--log-format"], "log_format", .store .text ["json", "console"]⟩]
  positionals := [.command "command"]

def commandGrammars : List (String × Grammar) :=
  [("marionette", ⟨"vmc marionette",
      [textOpt "--bind-ip" "bind_ip", intOpt "--bind-port" "bind_port"], []⟩),
    ("performer", ⟨"vmc performer",
      [textOpt "--target-ip" "target_ip", intOpt "--target-port" "target_port",
        intOpt "--fps" "fps", floatOpt "--duration" "duration"], []⟩),
    ("record", ⟨"vmc record",
      [textOpt "--bind-ip" "bind_ip", intOpt "--bind-port" "bind_port",
        pathOpt "--output" "output", floatOpt "--duration" "duration"], []⟩),
    ("replay", ⟨"vmc replay",
      [textOpt "--target-ip" "target_ip", intOpt "--target-port" "target_port",
        ⟨["--loop"], "loop", .storeTrue⟩], [.value "input" .path]⟩)]

namespace Namespace

def given? {α : Type} (ns : Namespace) (dest : String) (read? : ArgValue → Option α) :
    Option (Given α) :=
  match ns.get dest with
  | .noValues => some .noValues
  | v => (read? v).map .value

def text? (ns : Namespace) (dest : String) : Option (Given String) :=
  ns.given? dest fun | .text s => some s | _ => none

def path? (ns : Namespace) (dest : String) : Option (Given String) :=
  ns.given? dest fun | .path s => some (Config.normalPath s) | _ => none

def int? (ns : Namespace) (dest : String) : Option (Given Int) :=
  ns.given? dest fun | .int n => some n | _ => none

def float? (ns : Namespace) (dest : String) : Option (Given Binary64) :=
  ns.given? dest fun | .float x => some x | _ => none

def flag (ns : Namespace) (dest : String) : Bool :=
  match ns.get dest with
  | .flag b => b
  | _ => false

end Namespace

def Command.ofNamespace (ns : Namespace) : Command :=
  match (ns.text? "command").bind Given.value? with
  | some "performer" =>
    .performer (ns.text? "target_ip") (ns.int? "target_port") (ns.int? "fps") (ns.float? "duration")
  | some "record" =>
    .record (ns.text? "bind_ip") (ns.int? "bind_port") (ns.path? "output") (ns.float? "duration")
  | some "replay" =>
    .replay (((ns.path? "input").bind Given.value?).getD ".") (ns.text? "target_ip")
      (ns.int? "target_port")
      (ns.flag "loop")
  | _ => .marionette (ns.text? "bind_ip") (ns.int? "bind_port")

/-- Read a command line. -/
def Invocation.read (args : List String) : Except Exit Invocation := do
  let ns ← mainGrammar.parse commandGrammars args
  return ⟨ns.path? "config", ns.text? "log_level", ns.text? "log_format",
    Command.ofNamespace ns⟩

def addressFields (ip : Option (Given String)) (port : Option (Given Int)) :
    List (String × Json) :=
  (ip.map fun s => [("ip", s.toJson Json.str)]).getD [] ++
    (port.map fun n => [("port", n.toJson Json.int)]).getD []

def addressOverride (sectionName field : String) (ip : Option (Given String))
    (port : Option (Given Int)) : List (String × Json) :=
  if ip.isNone && port.isNone then []
  else [(sectionName, .obj [(field, .obj (addressFields ip port))])]

/-- The output path as the override writes it: the path, or for no values the text of
an empty list. -/
def outputText : Given String → String
  | .value p => p
  | .noValues => "[]"

/-- The settings the command line overrides, as a configuration document. -/
def Invocation.overrides (inv : Invocation) : List (String × Json) :=
  let logging := (inv.logLevel.map fun l => [("level", l.toJson Json.str)]).getD [] ++
    (inv.logFormat.map fun f => [("json", Json.bool (f.value? == some "json"))]).getD []
  let loggingSection := if logging.isEmpty then [] else [("logging", Json.obj logging)]
  let commandSections := match inv.command with
    | .marionette ip port => addressOverride "marionette" "bind" ip port
    | .record ip port output _ =>
      addressOverride "marionette" "bind" ip port ++
        (output.map fun p => [("recorder", Json.obj [("output", .str (outputText p))])]).getD []
    | .performer ip port fps _ =>
      addressOverride "performer" "target" ip port ++
        (fps.map fun n => [("demo", Json.obj [("fps", n.toJson Json.int)])]).getD []
    | .replay _ ip port _ => addressOverride "performer" "target" ip port
  loggingSection ++ commandSections

/-- The settings of a command line: those of the files visible, the configuration file
named or found under `projectRoot`, and the overrides. -/
def Invocation.settings (inv : Invocation) (lib : Config.Loaders) (files : Config.Files)
    (projectRoot : String) : Except Config.LoadError Config.Loaded :=
  match inv.config with
  | some .noValues => .error (.notAPath "list")
  | config => Config.loadSettings lib files projectRoot (config.bind Given.value?) inv.overrides

end Cli

end VirtualMocap
