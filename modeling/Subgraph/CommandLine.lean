import Subgraph.CommandLine.Arguments
import Subgraph.CommandLine.Usage
import Subgraph.Plugin

namespace Subgraph.CommandLine

/-- What a call leaves behind. A breakdown stands in place of the exit code. -/
structure Outcome where
  exit : Except Breakdown Nat
  output : List UInt8 := []
  messages : String := ""
  tree : FileTree

/-- A line of the log. -/
def logLine (message : String) : String :=
  s!"{programName}: {message}\n"

def errorLine (message : String) : String :=
  s!"Error: {message}\n"

/-- The lines that events show at a threshold. -/
def logLines (threshold : Threshold) (events : List Event) : String :=
  String.join ((events.filter threshold.shows).map fun event => logLine event.message)

/-- Answers the request that is the input. -/
def runPlugin (tree : FileTree) (input : List UInt8) : Outcome :=
  let start := logLines .info [.started]
  match Plugin.run tree input with
  | .error fault =>
    { exit := .ok 1, messages := start ++ logLine (Plugin.undecodable fault), tree := tree }
  | .ok run =>
    let messages := start ++ logLines run.threshold run.events
    match run.result with
    | .error cause => { exit := .error cause, messages := messages, tree := tree }
    | .ok response => { exit := .ok 0, output := response.encode, messages := messages, tree := tree }

/-- Why a descriptor set cannot be used. -/
inductive DescriptorFault where
  | unreadable (path : Path) (fault : FileFault)
  | undecodable (path : Path) (fault : Proto.Fault)
  | unlinkable (fault : Link.Fault)
  deriving DecidableEq, Repr

def DescriptorFault.message : DescriptorFault → String
  | unreadable path fault => s!"Could not read descriptor set {path.text}: {fault.message}"
  | undecodable path fault => s!"Invalid descriptor set {path.text}: {fault.message .fileSet}"
  | unlinkable fault => fault.message

/-- The proto files of a descriptor set. -/
def readDescriptorSet (tree : FileTree) (path : Path) : Except DescriptorFault (List Proto.FileProto) := do
  let bytes ← (tree.read path).mapError (.unreadable path)
  (Proto.decodeFileSet bytes).mapError (.undecodable path)

/-- Links the proto files of a descriptor set. A file that is chosen without a name ends the run,
unless one that is chosen before it is missing. -/
def linkChosen (protos : List Proto.FileProto) (files : List (Option String)) :
    Logged (Except (Failure DescriptorFault) Link.Linked) :=
  if files.contains none then do
    let _ ← Link.link protos (some [])
    match Link.missing? protos ((files.takeWhile (·.isSome)).filterMap id) with
    | some name => return .error (.fault (.unlinkable (.fileMissing name)))
    | none => return .error (.breakdown (.notName "list"))
  else do
    let linked ← Link.link protos (if files.isEmpty then none else some (files.filterMap id))
    return linked.mapError fun fault => .fault (.unlinkable fault)

/-- Generates the schemas of a descriptor set's services. -/
def generateFrom (tree : FileTree) (config : Config) (descriptorSet : Setting) (files : List (Option String)) :
    Logged (Except (Failure DescriptorFault) Generation) :=
  match descriptorSet.text? with
  | none => pure (.error (.breakdown (.notPath "list")))
  | some path =>
    match readDescriptorSet tree (Path.ofString path) with
    | .error fault => pure (.error (.fault fault))
    | .ok protos => do
      match ← linkChosen protos files with
      | .error failure => return .error failure
      | .ok linked =>
        match config.templateText with
        | .error cause => return .error (.breakdown cause)
        | .ok template =>
          let layout ← Layout.load tree template
          return .ok (← generate layout linked.pool (linked.services.map some))

/-- Writes files one after another, up to the first that cannot be written. -/
def writeAll (directory : Path) : FileTree → List GeneratedFile → FileTree × Option FileFault
  | tree, [] => (tree, none)
  | tree, file :: rest =>
    match tree.write (directory.join (Path.ofString file.name)) (Utf8.encode file.content) with
    | .error fault => (tree, some fault)
    | .ok tree => writeAll directory tree rest

/-- Writes a generation into a directory, which is made if it is not there. -/
def writeGeneration (tree : FileTree) (directory : Path) (files : List GeneratedFile) (messages : String) :
    Outcome :=
  match tree.makeDirectories directory with
  | .error fault => { exit := .error (.unwritable fault), messages := messages, tree := tree }
  | .ok made =>
    match writeAll directory made files with
    | (written, some fault) => { exit := .error (.unwritable fault), messages := messages, tree := written }
    | (written, none) =>
      let lines := files.map fun file => s!"Generated {(directory.join (Path.ofString file.name)).text}\n"
      { exit := .ok 0, output := Utf8.encode (String.join lines), messages := messages, tree := written }

/-- Generates schemas and writes them. Nothing is written unless all of them could be made. -/
def runGenerate (tree : FileTree) (config : Config) (descriptorSet : Setting) (files : List (Option String)) :
    Outcome :=
  let generation := generateFrom tree config descriptorSet files
  let messages := logLines config.threshold generation.events
  match generation.value with
  | .error (.breakdown cause) => { exit := .error cause, messages := messages, tree := tree }
  | .error (.fault fault) => { exit := .ok 1, messages := messages ++ errorLine fault.message, tree := tree }
  | .ok generation =>
    if generation.success then
      writeGeneration tree (Path.ofString config.outputDir) generation.files messages
    else
      let errors := generation.faults.map fun fault => errorLine fault.message
      { exit := .ok 1, messages := messages ++ String.join errors, tree := tree }

/-- Prints the standard template, or writes it to a file that is not there yet. -/
def runTemplate (tree : FileTree) (output : Setting) (force : Bool) : Outcome :=
  let source := Utf8.encode Sdl.template
  match output.text?.filter (!·.isEmpty) with
  | none => { exit := .ok 0, output := source, tree := tree }
  | some text =>
    let path := Path.ofString text
    if tree.exists? path && !force then
      { exit := .ok 1, tree := tree
        messages := errorLine s!"{path.text} already exists. Use --force to overwrite." }
    else
      match tree.write path source with
      | .error fault => { exit := .error (.unwritable fault), tree := tree }
      | .ok written => { exit := .ok 0, output := Utf8.encode s!"Created {path.text}\n", tree := written }

def perform (tree : FileTree) (input : List UInt8) : Invocation → Outcome
  | .plugin => runPlugin tree input
  | .template output force => runTemplate tree output force
  | .generate descriptorSet out template config logLevel files =>
    let overrides := [Config.override "template_path" template, Config.override "output_dir" out,
      Config.override "log_level" logLevel]
    match Config.resolve tree config.text? overrides with
    | .error (.breakdown cause) => { exit := .error cause, tree := tree }
    | .error (.fault fault) => { exit := .ok 1, messages := errorLine fault.message, tree := tree }
    | .ok config => runGenerate tree config descriptorSet files

/-- What a call that asks for nothing but a text, or makes no sense, leaves behind. -/
def Ending.outcome (tree : FileTree) : Ending → Outcome
  | help command => { exit := .ok 0, output := Utf8.encode (CommandLine.help command), tree := tree }
  | version => { exit := .ok 0, output := Utf8.encode versionText, tree := tree }
  | misuse command cause =>
    { exit := .ok 2, messages := usage command ++ s!"{callName command}: error: {cause.message}\n", tree := tree }

/-- Runs the program. -/
def run (tree : FileTree) (input : List UInt8) (arguments : List String) : Outcome :=
  match readArguments arguments with
  | .error ending => ending.outcome tree
  | .ok invocation => perform tree input invocation

/-- The file of a configuration, and its template once the configuration is known. -/
def configPaths (path : Option String) (config : Except (Failure Config.Fault) Config) : List Path :=
  let file := (path.filter (!·.isEmpty)).getD Config.defaultPath
  let template := config.toOption.bind fun config => config.templateText.toOption.join
  (file :: template.toList).map Path.ofString

/-- The paths that a call looks at, as far as the files known so far tell. -/
def pathsOf (tree : FileTree) (input : List UInt8) : Invocation → List Path
  | .plugin =>
    match Proto.Request.decode input with
    | .error _ => []
    | .ok request =>
      let named := (Parameter.parse request.parameter).toOption.bind (·.get? "config")
      configPaths named (Config.ofParameter tree request.parameter)
  | .generate descriptorSet out template config logLevel _ =>
    let resolved := Config.resolve tree config.text? [Config.override "template_path" template,
      Config.override "output_dir" out, Config.override "log_level" logLevel]
    let directory := (resolved.toOption.map (·.outputDir)).toList
    configPaths config.text? resolved ++ (descriptorSet.text?.toList ++ directory).map Path.ofString
  | .template output _ => output.text?.toList.map Path.ofString

end Subgraph.CommandLine
