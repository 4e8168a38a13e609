import VirtualMocap.Json.Value

/-!
# Settings

The settings of the tools, in six sections, each with a default. A target port lies in
`[1, 65535]`, a port to bind in `[0, 65535]`, and the output path is kept in its normal
form (`Config.normalPath`).
-/

namespace VirtualMocap

namespace Config

open Json

def defaultPort : Int := 39539

/-- An address and port. -/
structure Endpoint where
  ip : String := "127.0.0.1"
  port : Int := defaultPort
  deriving DecidableEq, Repr

/-- Where the performer sends, and where it binds its own socket. -/
structure PerformerSettings where
  target : Endpoint := {}
  bind : Endpoint := { port := 0 }
  deriving DecidableEq, Repr

/-- Where the marionette listens, and how many datagrams it queues. -/
structure MarionetteSettings where
  bind : Endpoint := {}
  queueMaxsize : Int := 1024
  deriving DecidableEq, Repr

/-- How deep bundles may nest. -/
structure CodecSettings where
  maxBundleDepth : Int := 16
  deriving DecidableEq, Repr

/-- The least severity that is logged. -/
inductive LogLevel where
  | debug
  | info
  | warning
  | error
  deriving DecidableEq, Repr

def LogLevel.name : LogLevel → String
  | .debug => "DEBUG"
  | .info => "INFO"
  | .warning => "WARNING"
  | .error => "ERROR"

def LogLevel.ofName? : String → Option LogLevel
  | "DEBUG" => some .debug
  | "INFO" => some .info
  | "WARNING" => some .warning
  | "ERROR" => some .error
  | _ => none

/-- How logs are written. -/
structure LoggingSettings where
  level : LogLevel := .info
  /-- Whether log lines are JSON objects rather than text for people. -/
  jsonLogs : Bool := true
  deriving DecidableEq, Repr

/-- Where recordings go. -/
structure RecorderSettings where
  output : String := "out.vmc.jsonl"
  deriving DecidableEq, Repr

/-- The frame rate of the idle animation. -/
structure DemoSettings where
  fps : Int := 60
  deriving DecidableEq, Repr

/-- All settings. -/
structure Settings where
  performer : PerformerSettings := {}
  marionette : MarionetteSettings := {}
  codec : CodecSettings := {}
  logging : LoggingSettings := {}
  recorder : RecorderSettings := {}
  demo : DemoSettings := {}
  deriving DecidableEq, Repr

def pathComponents (s : String) : List String :=
  (s.splitOn "/").filter fun c => !c.isEmpty && c != "."

/-- The normal form of a path: one root slash (two if the path begins with exactly two),
then the components joined by single slashes; the empty relative path is `.`. -/
def normalPath (s : String) : String :=
  let leading := (s.toList.takeWhile (· == '/')).length
  let root := if leading = 0 then "" else if leading = 2 then "//" else "/"
  let body := "/".intercalate (pathComponents s)
  if root.isEmpty && body.isEmpty then "." else root ++ body

def Endpoint.toJson (e : Endpoint) : Json := .obj [("ip", .str e.ip), ("port", .int e.port)]

def Settings.toJson (s : Settings) : Json :=
  .obj [
    ("performer", .obj [("target", s.performer.target.toJson), ("bind", s.performer.bind.toJson)]),
    ("marionette", .obj [("bind", s.marionette.bind.toJson),
      ("queue_maxsize", .int s.marionette.queueMaxsize)]),
    ("codec", .obj [("max_bundle_depth", .int s.codec.maxBundleDepth)]),
    ("logging", .obj [("level", .str s.logging.level.name), ("json_logs", .bool s.logging.jsonLogs)]),
    ("recorder", .obj [("output", .str s.recorder.output)]),
    ("demo", .obj [("fps", .int s.demo.fps)])]

end Config

end VirtualMocap
