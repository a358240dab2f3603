import Subgraph.Config
import Subgraph.Generate
import Subgraph.Link

namespace Subgraph

/-- A run: the events on the way, the least level of those to show, and what it comes to. -/
structure Run (α : Type) where
  threshold : Threshold := .info
  events : List Event := []
  result : α

/-- The lines that a run shows. -/
def Run.shown {α : Type} (run : Run α) : List Event :=
  run.events.filter run.threshold.shows

structure Response where
  error : Option String := none
  files : List GeneratedFile := []
  deriving DecidableEq, Repr

namespace Response

/-- Proto3 optional fields are supported. -/
def supportedFeatures : Nat := 1

/-- The files that could be made, and the failures of the others as one error. -/
def ofGeneration (generation : Generation) : Response where
  error := if generation.success then none else some ("\n".intercalate (generation.faults.map (·.message)))
  files := generation.files

/-- The texts of a response, in the order in which they are put into it. -/
def texts (response : Response) : List String :=
  response.files.flatMap (fun file => [file.name, file.content]) ++ response.error.toList

def textField (number : Nat) (text : String) : List UInt8 :=
  (Wire.Field.mk number (.bytes (Utf8.encode text))).encode

def encodeFile (file : GeneratedFile) : List UInt8 :=
  (Wire.Field.mk 15 (.bytes (textField 1 file.name ++ textField 15 file.content))).encode

def encode (response : Response) : List UInt8 :=
  ((response.error.map (textField 1)).getD []) ++
    (Wire.Field.mk 2 (.varint supportedFeatures)).encode ++ response.files.flatMap encodeFile

end Response

namespace Plugin

/-- The report of a request that cannot be read. -/
def undecodable (fault : Proto.Fault) : String :=
  s!"Invalid CodeGeneratorRequest: {fault.message .request}"

section

variable {σ ε : Type} [Host σ ε]

/-- Puts a response together from its texts. -/
def deliver (host : σ) (response : Response) : Except (Breakdown ε) Response :=
  match response.texts.forM (Host.putText host) with
  | .error exception => .error (.raised exception)
  | .ok () => .ok response

def reject (host : σ) (reason : String) : Logged (Except (Breakdown ε) Response) := do
  Logged.log (.failed reason)
  return deliver host { error := some reason }

/-- The response to a request under a configuration. -/
def respond (host : σ) (config : Config) (request : Proto.Request) :
    Logged (Except (Breakdown ε) Response) :=
  match config.templateText with
  | .error cause => pure (.error cause.lift)
  | .ok template =>
    match Layout.loadOn host template with
    | .error exception => pure (.error (.raised exception))
    | .ok loading => do
      let layout ← loading
      match ← Link.link request.files (some request.filesToGenerate) with
      | .error fault => reject host fault.message
      | .ok linked =>
        let generation ← generate layout linked.pool (linked.services.map some)
        return deliver host (.ofGeneration generation)

/-- Answers a request. Faults stand in the response. -/
def answer (host : σ) (request : Proto.Request) : Run (Except (Breakdown ε) Response) :=
  match Config.ofParameter host request.parameter with
  | .error (.breakdown cause) => { result := .error cause }
  | .error (.fault fault) =>
    let rejection := reject host fault.message
    { events := rejection.events, result := rejection.value }
  | .ok config =>
    let response := respond host config request
    { threshold := config.threshold, events := response.events, result := response.value }

/-- Answers a request in its binary form, if it can be read. -/
def run (host : σ) (bytes : List UInt8) : Except Proto.Fault (Run (Except (Breakdown ε) Response)) :=
  (Proto.Request.decode bytes).map (answer host)

end

end Plugin

end Subgraph
