import Subgraph.Config

namespace Subgraph

namespace Breakdown

/-- The kind of exception that a breakdown is. What a type error says is left out: it depends on the
order in which keys happen to be compared. -/
inductive Kind (ε : Type) where
  | text (fault : TextFault)
  | file (fault : FileFault)
  | type
  | host (exception : ε)

def kind {ε : Type} : Breakdown ε → Kind ε
  | unreadable fault => .text fault
  | unwritable fault => .file fault
  | keyNotText _ | keysUnordered .. | notPath _ | notName _ => .type
  | raised exception => .host exception

theorem lift_self (cause : Breakdown) : cause.lift = cause := by
  cases cause with
  | raised exception => cases exception
  | _ => rfl

end Breakdown

theorem Failure.lift_self {φ : Type} (failure : Failure φ) : failure.lift = failure := by
  cases failure with
  | fault reason => rfl
  | breakdown cause => exact congrArg Failure.breakdown cause.lift_self

theorem Failure.mapError_lift_self {φ α : Type} (result : Except (Failure φ) α) :
    result.mapError Failure.lift = result := by
  cases result with
  | error failure => exact congrArg Except.error failure.lift_self
  | ok value => rfl

/-- What is given directly, as a value. -/
def Setting.value? : Setting → Option Yaml.Value
  | absent => none
  | empty => some (.list [])
  | text value => some (.text value)

namespace Config

/-- The name that a value for the level stands for. -/
def levelName (value : Option Yaml.Value) : String :=
  Text.onChars Text.upper ((value.map (·.display)).getD "INFO")

/-- The configuration that values for the keys come to. -/
def settle (template level directory : Option Yaml.Value) : Except (Failure Fault) Config :=
  match Threshold.ofName? (levelName level) with
  | none => .error (.fault (.invalidLevel (levelName level)))
  | some threshold => .ok {
      templatePath := template.filter (·.isTruthy)
      threshold := threshold
      outputDir := (directory.map (·.display)).getD "." }

/-- The keys of entries that no configuration has. -/
def strangeKeys (entries : Yaml.Entries) : List Yaml.Scalar :=
  entries.names.filter fun key => !(keys.map Yaml.Scalar.text).contains key

theorem ofEntries_eq (entries : Yaml.Entries) :
    ofEntries entries =
      if strangeKeys entries = [] then
        settle (entries.get? "template_path") (entries.get? "log_level") (entries.get? "output_dir")
      else .error (unknownKeys (strangeKeys entries)) := by
  simp only [ofEntries]
  split
  · rename_i strange
    rw [if_neg (by simpa [strangeKeys] using strange)]
    rfl
  · rename_i known
    rw [if_pos (by simpa [strangeKeys] using known), settle, levelName]
    cases Threshold.ofName? _ <;> rfl

theorem merge_eq (config : Config) (template directory level : Setting) :
    config.merge [override "template_path" template, override "output_dir" directory,
        override "log_level" level] =
      settle (template.value?.or (some (config.templatePath.getD .null)))
        (level.value?.or (some (.text config.threshold.name)))
        (directory.value?.or (some (.text config.outputDir))) := by
  rw [merge, ofEntries_eq, if_pos]
  · congr 1 <;> cases template <;> cases directory <;> cases level <;> rfl
  · cases template <;> cases directory <;> cases level <;> rfl

/-- A setting that is absent leaves no trace. -/
theorem merge_absent (config : Config) (template level : Setting) :
    config.merge [override "template_path" template, override "log_level" level] =
      config.merge [override "template_path" template, override "output_dir" .absent,
        override "log_level" level] := by
  have null : (override "output_dir" .absent).2.isNull = true := rfl
  simp [merge, List.filter_cons, null]

/-- The name of the file that configures a run: the one that is given, or else the default one. -/
def sourceName (named : Option String) : String :=
  (named.filter (!·.isEmpty)).getD defaultPath

def sourcePath (named : Option String) : Path :=
  Path.ofString (sourceName named)

variable {σ ε : Type} [Host σ ε]

/-- The exceptions that a host raises when it is asked for the file that configures a run. -/
inductive FileRaises (host : σ) (named : Option String) : ε → Prop
  | path {exception : ε} (raises : Host.exists? host (sourcePath named) = .error exception) :
    FileRaises host named exception
  | text {exception : ε} (there : Host.exists? host (sourcePath named) = .ok true)
      (raises : Host.readText host (sourcePath named) = .error exception) : FileRaises host named exception
  | yaml {text : String} {exception : ε} (there : Host.exists? host (sourcePath named) = .ok true)
      (read : Host.readText host (sourcePath named) = .ok (.ok text))
      (raises : Host.readYaml host text = .error exception) : FileRaises host named exception

/-- The value that the file which configures a run holds. -/
structure FileValue (host : σ) (named : Option String) (value : Except String Yaml.Value) : Prop where
  there : Host.exists? host (sourcePath named) = .ok true
  read : ∃ text, Host.readText host (sourcePath named) = .ok (.ok text) ∧ Host.readYaml host text = .ok value

/-- The entries of the file that configures a run. Without content it has none, and the default one
does not have to be there. -/
inductive FileEntries (host : σ) (named : Option String) : Yaml.Entries → Prop
  | absent (unnamed : named.filter (!·.isEmpty) = none)
      (gone : Host.exists? host (sourcePath named) = .ok false) : FileEntries host named []
  | blank (blank : FileValue host named (.ok .null)) : FileEntries host named []
  | map {entries : Yaml.Entries} (map : FileValue host named (.ok (.map entries))) :
    FileEntries host named entries

/-- Why a file that configures a run has no entries. -/
inductive NoEntries (host : σ) (named : Option String) : Failure Fault ε → Prop
  | missing {path : String} (given : named.filter (!·.isEmpty) = some path)
      (gone : Host.exists? host (sourcePath named) = .ok false) :
    NoEntries host named (.fault (.fileMissing path))
  | unreadable {fault : TextFault} (there : Host.exists? host (sourcePath named) = .ok true)
      (unread : Host.readText host (sourcePath named) = .ok (.error fault)) :
    NoEntries host named (.breakdown (.unreadable fault))
  | invalid {report : String} (invalid : FileValue host named (.error report)) :
    NoEntries host named (.fault (.invalidYaml (sourcePath named).text report))
  | notMap {value : Yaml.Value} (parsed : FileValue host named (.ok value)) (content : value ≠ .null)
      (other : ∀ entries, value ≠ .map entries) :
    NoEntries host named (.fault (.notMap (sourcePath named).text value.typeName))
  | raised {exception : ε} (raises : FileRaises host named exception) :
    NoEntries host named (.breakdown (.raised exception))

section Source

variable {host : σ} {named : Option String}

theorem base_eq (host : σ) (named : Option String) :
    base host named =
      match load host (sourceName named) with
      | .error failure => .error failure
      | .ok (some config) => .ok config
      | .ok none =>
        match named.filter (!·.isEmpty) with
        | some path => .error (.fault (.fileMissing path))
        | none => .ok {} := by
  unfold base sourceName
  cases named.filter (!·.isEmpty) with
  | none =>
    dsimp only [Option.getD_none]
    rcases load host defaultPath with failure | _ | config <;> rfl
  | some path =>
    dsimp only [Option.getD_some]
    rcases load host path with failure | _ | config <;> rfl

theorem load_of_gone (gone : Host.exists? host (sourcePath named) = .ok false) :
    load host (sourceName named) = .ok none := by
  unfold load
  unfold sourcePath at gone
  simp only [gone]

theorem load_of_text {text : String} (there : Host.exists? host (sourcePath named) = .ok true)
    (read : Host.readText host (sourcePath named) = .ok (.ok text)) :
    load host (sourceName named) = (parse host (sourcePath named) text).map some := by
  unfold load
  unfold sourcePath at there read
  simp only [there, read]
  rfl

theorem base_of_fileEntries {entries : Yaml.Entries} (source : FileEntries host named entries) :
    base host named = (ofEntries entries).mapError .lift := by
  rw [base_eq]
  cases source with
  | absent unnamed gone =>
    rw [load_of_gone gone, unnamed]
    rfl
  | blank blank =>
    obtain ⟨there, text, read, yaml⟩ := blank
    rw [load_of_text there read, parse, yaml]
    rfl
  | map map =>
    obtain ⟨there, text, read, yaml⟩ := map
    rw [load_of_text there read, parse, yaml]
    dsimp only
    cases ofEntries entries <;> rfl

theorem resolve_of_base {config : Config} (base : base host named = .ok config) (overrides : Yaml.Entries) :
    resolve host named overrides = (config.merge overrides).mapError .lift := by
  rw [resolve, base]
  rfl

theorem resolve_of_error {failure : Failure Fault ε} (failed : base host named = .error failure)
    (overrides : Yaml.Entries) : resolve host named overrides = .error failure := by
  rw [resolve, failed]
  rfl

end Source

/-- The directory that is written into has no bearing on the template. -/
theorem templatePath_resolve (host : σ) (named : Option String) (template directory level : Setting) :
    (resolve host named [override "template_path" template, override "output_dir" directory,
      override "log_level" level]).map (·.templatePath) =
    (resolve host named [override "template_path" template, override "log_level" level]).map
      (·.templatePath) := by
  cases base : base host named with
  | error failure => rw [resolve_of_error base, resolve_of_error base]
  | ok config =>
    rw [resolve_of_base base, resolve_of_base base, merge_absent, merge_eq, merge_eq]
    unfold settle
    split <;> rfl

def ValidLevel (value : Option Yaml.Value) : Prop :=
  (Threshold.ofName? (levelName value)).isSome = true

/-- A file and the values of a parameter that make up a configuration. -/
structure Consistent (host : σ) (values : Registry String) (entries : Yaml.Entries) : Prop where
  source : FileEntries host (values.get? "config") entries
  known : strangeKeys entries = []
  fileLevel : ValidLevel (entries.get? "log_level")
  givenLevel : ValidLevel ((values.get? "log_level").map .text)

/-- What stands for the template's path. A parameter counts before the file. -/
def chosenTemplate (values : Registry String) (entries : Yaml.Entries) : Option Yaml.Value :=
  (((values.get? "template_path").map .text).or (entries.get? "template_path")).filter (·.isTruthy)

/-- The faults that a parameter's values and the file lead to. -/
inductive Faulty (host : σ) (values : Registry String) : Fault → Prop
  | file {fault : Fault} (none : NoEntries host (values.get? "config") (.fault fault)) :
    Faulty host values fault
  | unknownKeys {entries : Yaml.Entries} (source : FileEntries host (values.get? "config") entries)
      (strange : strangeKeys entries ≠ []) (texts : ∀ key ∈ strangeKeys entries, key.text?.isSome = true) :
    Faulty host values (.unknownKeys (((strangeKeys entries).filterMap (·.text?)).mergeSort (decide <| · ≤ ·)))
  | fileLevel {entries : Yaml.Entries} (source : FileEntries host (values.get? "config") entries)
      (known : strangeKeys entries = []) (invalid : ¬ValidLevel (entries.get? "log_level")) :
    Faulty host values (.invalidLevel (levelName (entries.get? "log_level")))
  | givenLevel {entries : Yaml.Entries} (source : FileEntries host (values.get? "config") entries)
      (known : strangeKeys entries = []) (fileLevel : ValidLevel (entries.get? "log_level"))
      (invalid : ¬ValidLevel ((values.get? "log_level").map .text)) :
    Faulty host values (.invalidLevel (levelName ((values.get? "log_level").map .text)))

/-- The template's path that a parameter's values and the file lead to. -/
def Settled (host : σ) (values : Registry String) (template : Option String) : Prop :=
  ∃ entries, Consistent host values entries ∧ chosenTemplate values entries = template.map .text

/-- The configuration that a parameter's values lead to. -/
def ofValues (host : σ) (values : Registry String) : Except (Failure Fault ε) Config :=
  resolve host (values.get? "config") [override "template_path" (.ofText? (values.get? "template_path")),
    override "log_level" (.ofText? (values.get? "log_level"))]

/-- The template's path that the configuration has. -/
def templateOf (host : σ) (values : Registry String) : Except (Failure Fault ε) (Option String) := do
  (← ofValues host values).templateText.mapError fun cause => .breakdown cause.lift

theorem ofParameter_eq (host : σ) (text : String) :
    ofParameter host text =
      match Parameter.parse text with
      | .error fault => .error (.fault (.parameter fault))
      | .ok values => ofValues host values := by
  unfold ofParameter
  cases Parameter.parse text <;> rfl

section Values

variable {host : σ} {values : Registry String} {entries : Yaml.Entries}

theorem templateText_congr {first second : Config} (same : first.templatePath = second.templatePath) :
    first.templateText = second.templateText := by
  unfold templateText
  rw [same]

theorem templateOf_of_error {failure : Failure Fault ε} (failed : ofValues host values = .error failure) :
    templateOf host values = .error failure := by
  rw [templateOf, failed]
  rfl

theorem templateOf_of_ok {config : Config} (settled : ofValues host values = .ok config) :
    templateOf host values = config.templateText.mapError fun cause => .breakdown cause.lift := by
  rw [templateOf, settled]
  rfl

end Values

end Config

end Subgraph
