import Subgraph.Build
import Subgraph.Layout
import Subgraph.Validation

namespace Subgraph

structure GeneratedFile where
  name : String
  content : String
  deriving DecidableEq, Repr

/-- The files of the services that could be rendered and the failures of the others. -/
structure Generation where
  files : List GeneratedFile := []
  faults : List RenderFault := []
  deriving DecidableEq, Repr

namespace Generation

def success (generation : Generation) : Bool :=
  generation.faults.isEmpty

/-- Renders one schema and adds its file or its failure. -/
def add (layout : Layout) (generation : Generation) (service : String) (schema : Schema) :
    Logged Generation :=
  let issues := (Validation.validate schema).map fun issue => Event.schemaIssue service issue.message
  match layout.render schema with
  | .ok content =>
    let file := Naming.schemaFile service
    { value := { generation with files := generation.files ++ [⟨file, content⟩] }
      events := issues ++ [.fileGenerated file] }
  | .error fault =>
    { value := { generation with faults := generation.faults ++ [fault] }
      events := issues ++ [.failed fault.message] }

end Generation

/-- Generates a file for each service. A service that cannot be rendered does not hinder the others. -/
def generate (layout : Layout) (pool : Descriptor.Pool) (services : List (Option Descriptor.Service)) :
    Logged Generation := do
  let schemas ← Build.buildAll pool services
  schemas.foldlM (fun generation (service, schema) => generation.add layout service schema) {}

end Subgraph
