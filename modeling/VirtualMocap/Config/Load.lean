import VirtualMocap.Config.Merge
import VirtualMocap.Config.Settings
import VirtualMocap.Json.Issue
import VirtualMocap.Yaml.Token
import VirtualMocap.Text.Blank

/-!
# Loading settings

Settings come from the defaults, a YAML configuration file and the command line's
overrides, each winning over the one before (`loadSettings`). The file is the one named,
or the first of `config.yaml` and `config/config.yaml` under the project root. The YAML
and validating libraries are parameters (`Loaders`), and the files a table (`Files`).
-/

namespace VirtualMocap

namespace Config

open Json

/-- The files the loader can see: each path with its text. -/
abbrev Files := List (String × String)

def Files.read? (files : Files) (path : String) : Option String :=
  (files.find? fun f => normalPath f.1 == normalPath path).map (·.2)

/-- The names under the project root where a configuration file is looked for, in order. -/
def candidates : List String := ["config.yaml", "config/config.yaml"]

/-- Make every line end a line feed: a carriage return and line feed, or a lone carriage
return, becomes one line feed. -/
def unifyLineEnds (s : String) : String := "\n".intercalate (Text.lines s)

/-- A YAML document as loaded: nothing (no document, or a null one), a mapping given as
configuration fields, or a value of another kind, named as the library names its type. -/
inductive Document where
  | none
  | mapping (fields : List (String × Json))
  | other (typeName : String)

/-- The libraries settings are loaded with: `safeLoad` reads a YAML text, and `validate`
makes settings from a configuration mapping, or gives the issues found. -/
structure Loaders where
  safeLoad : String → Except Yaml.YamlError Document
  validate : List (String × Json) → Except (List Issue) Settings

/-- Why settings cannot be loaded. -/
inductive LoadError where
  /-- The explicitly named file does not exist. -/
  | notFound (path : String)
  /-- The file is not valid YAML; `text` is what was read. -/
  | yaml (e : Yaml.YamlError) (text : String)
  /-- The file's document is not a mapping but a value of this kind. -/
  | notMapping (path kind : String)
  /-- The merged layers do not make valid settings. -/
  | invalid (issues : List Issue)
  /-- The configuration path given is a value of this kind, which is not a path. -/
  | notAPath (kind : String)

def LoadError.message : LoadError → String
  | .notFound path => "config file not found: " ++ path
  | .yaml e text => e.message (text.toList ++ ['\x00']).toArray
  | .notMapping path kind => s!"{path}: top level of the config must be a mapping, got {kind}"
  | .invalid issues => issuesLine issues
  | .notAPath kind => s!"\x27{kind}\x27 object has no attribute \x27expanduser\x27"

def LoadError.name : LoadError → String
  | .notFound _ => "FileNotFoundError"
  | .yaml e _ => e.name
  | .notMapping .. => "ValueError"
  | .invalid _ => "ValidationError"
  | .notAPath _ => "AttributeError"

/-- The settings of a configuration file at `path` with text `text`: none when the file
holds no document or a null one, and otherwise its document, which must be a mapping. -/
def readConfig (lib : Loaders) (path text : String) : Except LoadError (List (String × Json)) :=
  let text := unifyLineEnds text
  match lib.safeLoad text with
  | .error e => .error (.yaml e text)
  | .ok .none => .ok []
  | .ok (.mapping fields) => .ok fields
  | .ok (.other kind) => .error (.notMapping (normalPath path) kind)

/-- Settings with the file they were read from, if any. -/
structure Loaded where
  settings : Settings
  configPath : Option String

def findConfig (files : Files) (projectRoot : String) : Option String :=
  (candidates.map fun name => normalPath (projectRoot ++ "/" ++ name)).find? fun p =>
    (files.read? p).isSome

/-- Load settings: defaults, then the configuration file, then the overrides. -/
def loadSettings (lib : Loaders) (files : Files) (projectRoot : String) (configPath : Option String)
    (overrides : List (String × Json)) : Except LoadError Loaded := do
  let resolved ← match configPath with
    | some p =>
      if (files.read? p).isSome then pure (some (normalPath p))
      else throw (.notFound (normalPath p))
    | none => pure (findConfig files projectRoot)
  let fileData ← match resolved with
    | some p => readConfig lib p ((files.read? p).getD "")
    | none => pure []
  match lib.validate (deepMerge fileData overrides) with
  | .ok settings => return ⟨settings, resolved⟩
  | .error issues => throw (.invalid issues)

end Config

end VirtualMocap
