import Subgraph.Host
import Subgraph.Parameter
import Subgraph.Text.Case
import Subgraph.Threshold
import Subgraph.Yaml.Writer

namespace Subgraph

structure Config where
  /-- Where a template of the user's own is. A value that is no text is kept as given. -/
  templatePath : Option Yaml.Value := none
  threshold : Threshold := .info
  outputDir : String := "."

namespace Config

/-- The file that is read when no other one is named. -/
def defaultPath : String :=
  "protoc-gen-graphql.yaml"

inductive Fault where
  | unknownKeys (keys : List String)
  | invalidLevel (name : String)
  | invalidYaml (path report : String)
  | notMap (path type : String)
  | fileMissing (path : String)
  | parameter (fault : Parameter.Fault)
  deriving DecidableEq, Repr

def Fault.message : Fault → String
  | unknownKeys keys =>
    let names := ", ".intercalate keys
    s!"Unknown config keys: {names}"
  | invalidLevel name => s!"Invalid log_level '{name}'"
  | invalidYaml path report => s!"Invalid YAML in {path}: {report}"
  | notMap path type => s!"{path} must contain a mapping, got {type}"
  | fileMissing path => s!"Config file {path} not found"
  | parameter fault => fault.message

def keys : List String :=
  ["template_path", "log_level", "output_dir"]

/-- The failure that unknown keys lead to. Their names are sorted for the report. -/
def unknownKeys (unknown : List Yaml.Scalar) : Failure Fault :=
  let names := unknown.filterMap Yaml.Scalar.text?
  match unknown.find? (·.text?.isNone) with
  | none => .fault (.unknownKeys (names.mergeSort (decide <| · ≤ ·)))
  | some other =>
    if names.isEmpty then .breakdown (.keyNotText other.typeName)
    else .breakdown (.keysUnordered other.typeName "str")

/-- A value for each key, or its default. -/
def ofEntries (entries : Yaml.Entries) : Except (Failure Fault) Config := do
  let unknown := entries.names.filter fun key => !(keys.map Yaml.Scalar.text).contains key
  if !unknown.isEmpty then throw (unknownKeys unknown)
  let level := Text.onChars Text.upper (((entries.get? "log_level").map (·.display)).getD "INFO")
  match Threshold.ofName? level with
  | none => throw (.fault (.invalidLevel level))
  | some threshold =>
    return {
      templatePath := (entries.get? "template_path").filter (·.isTruthy)
      threshold := threshold
      outputDir := ((entries.get? "output_dir").map (·.display)).getD "." }

def toEntries (config : Config) : Yaml.Entries :=
  [(.text "template_path", config.templatePath.getD .null), (.text "log_level", .text config.threshold.name),
    (.text "output_dir", .text config.outputDir)]

/-- Overlays a configuration. Null stands for what is not given. -/
def merge (config : Config) (overrides : Yaml.Entries) : Except (Failure Fault) Config :=
  ofEntries (config.toEntries.update (overrides.filter fun (_, value) => !value.isNull))

/-- The text of a configuration's file. -/
def text (config : Config) : String :=
  Yaml.write config.toEntries

def save (config : Config) (tree : FileTree) (path : String) : Except FileFault FileTree :=
  tree.write (Path.ofString path) (Utf8.encode config.text)

/-- What is given directly for a key. A value without a text is an empty list. -/
def override (key : String) (setting : Setting) : Yaml.Scalar × Yaml.Value :=
  let value :=
    match setting with
    | .absent => .null
    | .empty => .list []
    | .text value => .text value
  (.text key, value)

/-- Where the template is, which has to be a text. -/
def templateText (config : Config) : Except Breakdown (Option String) :=
  match config.templatePath with
  | none => .ok none
  | some (.text path) => .ok (some path)
  | some other => .error (.notPath other.typeName)

section Loading

variable {σ ε : Type} [Host σ ε]

/-- What a file's text says. A file without content says nothing. -/
def parse (host : σ) (path : Path) (text : String) : Except (Failure Fault ε) Config :=
  match Host.readYaml host text with
  | .error exception => .error (.breakdown (.raised exception))
  | .ok (.error report) => .error (.fault (.invalidYaml path.text report))
  | .ok (.ok .null) => (ofEntries []).mapError .lift
  | .ok (.ok (.map entries)) => (ofEntries entries).mapError .lift
  | .ok (.ok other) => .error (.fault (.notMap path.text other.typeName))

/-- The configuration of a file, if the file is there. -/
def load (host : σ) (path : String) : Except (Failure Fault ε) (Option Config) :=
  let path := Path.ofString path
  match Host.exists? host path with
  | .error exception => .error (.breakdown (.raised exception))
  | .ok false => .ok none
  | .ok true =>
    match Host.readText host path with
    | .error exception => .error (.breakdown (.raised exception))
    | .ok (.error fault) => .error (.breakdown (.unreadable fault))
    | .ok (.ok text) => (parse host path text).map some

/-- The configuration below what is given directly. A file that is named has to be there. -/
def base (host : σ) (path : Option String) : Except (Failure Fault ε) Config := do
  match path.filter (!·.isEmpty) with
  | some path =>
    match ← load host path with
    | some config => return config
    | none => throw (.fault (.fileMissing path))
  | none => return (← load host defaultPath).getD {}

/-- The configuration of a run: defaults, overlaid by a file, overlaid by what is given directly. -/
def resolve (host : σ) (path : Option String) (overrides : Yaml.Entries) :
    Except (Failure Fault ε) Config := do
  ((← base host path).merge overrides).mapError .lift

/-- The configuration that a request's parameter leads to. -/
def ofParameter (host : σ) (text : String) : Except (Failure Fault ε) Config := do
  let values ← (Parameter.parse text).mapError fun fault => .fault (.parameter fault)
  let setting (key : String) := override key (.ofText? (values.get? key))
  resolve host (values.get? "config") [setting "template_path", setting "log_level"]

end Loading

end Config

end Subgraph
