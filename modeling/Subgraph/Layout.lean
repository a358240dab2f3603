import Subgraph.Event
import Subgraph.Host
import Subgraph.Sdl.Document
import Subgraph.Sdl.Template

namespace Subgraph

inductive Layout where
  | standard
  | custom (name : String) (template : Rendering)

/-- The report of a template that cannot be loaded. -/
def templateNotLoaded (name detail : String) : String :=
  s!"Failed to load template '{name}': {detail}"

/-- The report of a service whose schema cannot be rendered. -/
def renderFailed (service detail : String) : String :=
  s!"Rendering schema for service '{service}' failed: {detail}"

structure RenderFault where
  service : String
  template : String
  cause : Template.EvalFault
  deriving DecidableEq, Repr

def RenderFault.message (fault : RenderFault) : String :=
  renderFailed fault.service s!"{fault.template}: {fault.cause.message}"

namespace Layout

def isCustom : Layout → Bool
  | standard => false
  | custom .. => true

def name : Layout → String
  | standard => Sdl.templateName
  | custom name _ => name

def useStandard : Logged Layout := do
  Logged.log .embeddedTemplate
  return standard

section Loading

variable {σ ε : Type} [Host σ ε]

/-- A template of the user's own, if it can be read and understood. -/
def loadCustom (host : σ) (path : Path) : Except ε (Logged (Option Rendering)) :=
  match Host.readSource host path with
  | .error exception => .error exception
  | .ok (.error report) => .ok do
    Logged.log (.templateUnreadable path.text report)
    return none
  | .ok (.ok source) =>
    match Host.readTemplate host source with
    | .error exception => .error exception
    | .ok (.error fault) => .ok do
      Logged.log (.templateUnparsable path.text fault.line fault.cause.message)
      return none
    | .ok (.ok template) => .ok (pure (some template))

/-- Loads the layout for a template path on a host. A template that cannot be used is replaced by the
standard layout. -/
def loadOn (host : σ) (path : Option String) : Except ε (Logged Layout) :=
  match path.filter (!·.isEmpty) with
  | none => .ok useStandard
  | some text =>
    (loadCustom host (Path.ofString text)).map fun loading => do
      match ← loading with
      | some template =>
        Logged.log (.customTemplate text)
        return custom (Path.ofString text).name template
      | none => useStandard

end Loading

/-- Loads the layout for a template path in a tree. -/
def load (tree : FileTree) (path : Option String) : Logged Layout :=
  match loadOn tree path with
  | .ok layout => layout

def render (layout : Layout) (schema : Schema) : Except RenderFault String :=
  match layout with
  | standard => .ok (Sdl.document schema)
  | custom name template => (template schema).mapError (⟨schema.service, name, ·⟩)

end Layout

end Subgraph
