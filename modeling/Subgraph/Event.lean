import Subgraph.Options

namespace Subgraph

inductive Level where
  | debug | info | warning | error | critical
  deriving DecidableEq, Repr

namespace Level

def name : Level → String
  | debug => "DEBUG"
  | info => "INFO"
  | warning => "WARNING"
  | error => "ERROR"
  | critical => "CRITICAL"

def severity : Level → Nat
  | debug => 10
  | info => 20
  | warning => 30
  | error => 40
  | critical => 50

end Level

/-- The descriptor that an option stands on. -/
inductive Subject where
  | field (name : String)
  | message (name : String)
  deriving DecidableEq, Repr

def Subject.text : Subject → String
  | field name => s!"field '{name}'"
  | message name => s!"message '{name}'"

inductive Event where
  | optionUnreadable (subject : Subject) (fault : OptionSet.Fault)
  | optionAbsent (number : Nat) (subject : Subject)
  | keyByName (field : String)
  | entityByName (message : String)
  | directiveUnreadable (directive field : String) (fault : OptionSet.Fault)
  | serviceMissing
  | methodMissing (service : String)
  | outputMissing (method : String)
  | messageMissing (field : String)
  | inputMessageMissing (field : String)
  | entityWithoutKey (type : String)
  | schemaBuilt (service : String) (types inputs enums : Nat)
  | messageUnresolved (type owner field : String)
  | enumUnresolved (type owner field : String)
  | inputUnresolved (type method : String)
  | outputUnresolved (type method : String)
  | templateUnreadable (path reason : String)
  | templateUnparsable (path : String) (line : Nat) (reason : String)
  | customTemplate (path : String)
  | embeddedTemplate
  | schemaIssue (service issue : String)
  | fileGenerated (file : String)
  | failed (reason : String)
  | started
  deriving DecidableEq, Repr

namespace Event

def level : Event → Level
  | optionUnreadable .. | directiveUnreadable .. | entityWithoutKey .. | messageUnresolved ..
  | enumUnresolved .. | inputUnresolved .. | outputUnresolved .. | templateUnreadable ..
  | templateUnparsable .. | schemaIssue .. => .warning
  | keyByName .. | entityByName .. | customTemplate .. | embeddedTemplate => .info
  | failed .. => .error
  | _ => .debug

def message : Event → String
  | optionUnreadable subject fault =>
    s!"Could not read option {fault.number} on {subject.text}: {fault.message}; falling back to name heuristic"
  | optionAbsent number subject =>
    s!"No explicit option {number} on {subject.text}; using name heuristic"
  | keyByName field => s!"Found key field by name: {field}"
  | entityByName message => s!"Found entity by name: {message}"
  | directiveUnreadable directive field fault =>
    s!"Could not read {directive} option on field '{field}': {fault.message}"
  | serviceMissing => "Skipping missing service descriptor"
  | methodMissing service => s!"Skipping missing method in {service}"
  | outputMissing method => s!"Skipping method {method}: missing output message"
  | messageMissing field => s!"Skipping field {field}: missing message type"
  | inputMessageMissing field => s!"Skipping input field {field}: missing message type"
  | entityWithoutKey type => s!"Entity {type} has no key field; @key directive omitted"
  | schemaBuilt service types inputs enums =>
    s!"Built schema for {service}: {types} types, {inputs} inputs, {enums} enums"
  | messageUnresolved type owner field => s!"Unresolved message type {type} for {owner}.{field}"
  | enumUnresolved type owner field => s!"Unresolved enum type {type} for {owner}.{field}"
  | inputUnresolved type method => s!"Unresolved input type {type} for method {method}"
  | outputUnresolved type method => s!"Unresolved output type {type} for method {method}"
  | templateUnreadable path reason =>
    s!"Could not read template from {path}: {reason}, falling back to embedded template"
  | templateUnparsable path line reason =>
    s!"Failed to parse template from file {path}: line {line}: {reason}, falling back to embedded template"
  | customTemplate path => s!"Using custom template from path: {path}"
  | embeddedTemplate => "Using embedded template"
  | schemaIssue service issue => s!"{service}: {issue}"
  | fileGenerated file => s!"Generated {file}"
  | failed reason => reason
  | started => "Starting protoc-gen-graphql..."

end Event

/-- A value with the events met on the way to it. -/
structure Logged (α : Type) where
  value : α
  events : List Event := []

namespace Logged

def log (event : Event) : Logged Unit :=
  ⟨(), [event]⟩

instance : Monad Logged where
  pure value := ⟨value, []⟩
  bind first next := ⟨(next first.value).value, first.events ++ (next first.value).events⟩

end Logged

end Subgraph
