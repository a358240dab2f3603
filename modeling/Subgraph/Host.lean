import Subgraph.FileTree
import Subgraph.Template.Reader
import Subgraph.Template.Render
import Subgraph.Text.Lines
import Subgraph.Text.Utf8
import Subgraph.Yaml.Reader

namespace Subgraph

/-- Why a file has no text. -/
inductive TextFault where
  | file (fault : FileFault)
  | encoding (fault : Utf8.Fault)
  deriving DecidableEq, Repr

def TextFault.message : TextFault → String
  | file fault => fault.message
  | encoding fault => fault.message

/-- The text of a file, its lines ended by line feeds. -/
def FileTree.readText (tree : FileTree) (path : Path) : Except TextFault String := do
  let content ← (tree.read path).mapError .file
  let text ← (Utf8.decode content).mapError .encoding
  return Text.onChars Text.unifyLineEnds text

/-- A template in use: what it makes of a schema. -/
abbrev Rendering := Schema → Except Template.EvalFault String

/-- What a run asks of the system that it is on and of the libraries that read YAML and templates and
write messages. Each of these calls may also raise an exception `ε`, which nothing catches. Limits that
depend on the resources of a run, such as the depth of a recursion or the digits of a number, are left
out. -/
class Host (σ : Type) (ε : outParam Type) where
  /-- Whether there is something at a path. -/
  exists? : σ → Path → Except ε Bool
  /-- The text of the file that configures a run. -/
  readText : σ → Path → Except ε (Except TextFault String)
  /-- The text of a template's file, or the report that it has none. -/
  readSource : σ → Path → Except ε (Except String String)
  /-- What a text in YAML says, or the report that it is none. -/
  readYaml : σ → String → Except ε (Except String Yaml.Value)
  /-- The template that a text is, or why it is none. -/
  readTemplate : σ → String → Except ε (Except Template.Fault Rendering)
  /-- Puts a text into a response. What a host takes for a text, such as half of a surrogate pair, may have
  no encoding. -/
  putText : σ → String → Except ε Unit

/-- A tree of files raises no exceptions. -/
instance : Host FileTree Empty where
  exists? tree path := .ok (tree.exists? path)
  readText tree path := .ok (tree.readText path)
  readSource tree path := .ok ((tree.readText path).mapError (·.message))
  readYaml _ text := .ok ((Yaml.read text).mapError (·.message))
  readTemplate _ source := .ok ((Template.read source).map Template.render)
  putText _ _ := .ok ()

/-- A failure that a run does not report but ends with. -/
inductive Breakdown (ε : Type := Empty) where
  /-- A file that is needed as text has none. -/
  | unreadable (fault : TextFault)
  /-- A file or a directory that cannot be made. -/
  | unwritable (fault : FileFault)
  /-- A key that is unknown and not even a text. -/
  | keyNotText (type : String)
  /-- Unknown keys that have no common order. -/
  | keysUnordered (later earlier : String)
  /-- A value that is no path. -/
  | notPath (type : String)
  /-- A value that cannot be looked up among names. -/
  | notName (type : String)
  /-- An exception of the host. -/
  | raised (exception : ε)
  deriving DecidableEq, Repr

namespace Breakdown

def message : Breakdown → String
  | unreadable fault => fault.message
  | unwritable fault => fault.message
  | keyNotText type => s!"sequence item 0: expected str instance, {type} found"
  | keysUnordered later earlier => s!"'<' not supported between instances of '{later}' and '{earlier}'"
  | notPath type => s!"expected str, bytes or os.PathLike object, not {type}"
  | notName type => s!"unhashable type: '{type}'"

/-- A breakdown that no host has raised, on any host. -/
def lift {ε : Type} : Breakdown → Breakdown ε
  | unreadable fault => unreadable fault
  | unwritable fault => unwritable fault
  | keyNotText type => keyNotText type
  | keysUnordered later earlier => keysUnordered later earlier
  | notPath type => notPath type
  | notName type => notName type

end Breakdown

/-- A fault that can be reported, or a breakdown. -/
inductive Failure (φ : Type) (ε : Type := Empty) where
  | fault (fault : φ)
  | breakdown (cause : Breakdown ε)
  deriving DecidableEq, Repr

/-- What fails without the host, on any host. -/
def Failure.lift {φ ε : Type} : Failure φ → Failure φ ε
  | .fault reason => .fault reason
  | .breakdown cause => .breakdown cause.lift

end Subgraph
