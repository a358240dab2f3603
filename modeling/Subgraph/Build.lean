import Subgraph.Basic
import Subgraph.Comment
import Subgraph.Federation
import Subgraph.Schema
import Subgraph.TypeExpr
import Subgraph.Walk

namespace Subgraph.Build

open Descriptor

inductive Operation where
  | query
  | mutation
  deriving DecidableEq, Repr

def Operation.name : Operation → String
  | query => "Query"
  | mutation => "Mutation"

/-- Method names that begin with one of these, in any case, only read. -/
def queryVerbs : List String :=
  ["get", "list", "search"]

def classify (method : String) : Operation :=
  if queryVerbs.any (·.toList.isPrefixOf (Text.lower method.toList)) then .query else .mutation

def objectName (message : Message) : String :=
  Naming.typeName message.name

def inputName (message : Message) : String :=
  Naming.inputName message.name

/-- The name that a field's type expression is built on; `reference` names the definition of the
message that the field refers to. -/
def baseType (pool : Pool) (reference : Message → String) (field : Field) : String :=
  match field.kind.isComposite, pool.message? field.message with
  | true, some message => reference message
  | _, _ =>
    match field.kind, pool.enum? field.enum with
    | .enum, some enum => Naming.typeName enum.name
    | kind, _ => kind.scalarFor (some field.name)

/-- The parts of a field that options have no say in. -/
def plainField (pool : Pool) (reference : Message → String) (field : Field) : Schema.Field where
  name := Naming.fieldName field.name
  type := TypeExpr.decorate (baseType pool reference field) field.repeated field.required
  comment := Comment.clean field.comment
  required := field.required

def isKey (field : Field) : Bool :=
  (Federation.resolveKey field).value.holds

def outputField (pool : Pool) (field : Field) : Schema.Field :=
  { plainField pool objectName field with
    key := isKey field
    external := (Federation.isExternal field).value
    requires := (Federation.requiredSelection field).value
    computedFrom := (Federation.computedFrom field).value }

/-- The first key among the fields that are shown. -/
def shownKey? (pool : Pool) (message : Message) : Option Field :=
  (pool.keptFields message).find? isKey

/-- The message counts as an entity, given whether it shows a key. -/
def entity (pool : Pool) (message : Message) : Logged Bool := do
  let key := shownKey? pool message
  let resolution ← Federation.resolveEntity message (some key.isSome)
  if resolution.holds && key.isNone then Logged.log (.entityWithoutKey (objectName message))
  return resolution.holds

def objectType (pool : Pool) (message : Message) : Schema.ObjectType :=
  let base : Schema.ObjectType :=
    { name := objectName message
      fields := (pool.keptFields message).map (outputField pool)
      comment := Comment.clean message.comment }
  match (entity pool message).value, shownKey? pool message with
  | true, some key => { base with federated := true, keyField := Naming.fieldName key.name }
  | _, _ => base

def inputType (pool : Pool) (message : Message) : Schema.InputType where
  name := inputName message
  fields := (pool.keptFields message).map (plainField pool inputName)
  comment := Comment.clean message.comment

def enumType (enum : Enum) : Schema.EnumType where
  name := Naming.typeName enum.name
  options := enum.values.map fun value => { name := value.name, comment := s!"Value: {value.number}" }
  comment := Comment.clean enum.comment

/-- What a step on the output side reports. -/
def outputEvents (pool : Pool) : Step → List Event
  | .enter _ => []
  | .skip field => [.messageMissing field.name]
  | .field field =>
    (Federation.isExternal field).events ++ (Federation.requiredSelection field).events ++
      (Federation.computedFrom field).events ++ (Federation.resolveKey field).events
  | .leave message => (entity pool message).events

/-- What a step on the request side reports. -/
def inputEvents : Step → List Event
  | .skip field => [.inputMessageMissing field.name]
  | _ => []

def addEnum (enums : List Schema.EnumType) (enum : Enum) : List Schema.EnumType :=
  if enums.any (·.name == Naming.typeName enum.name) then enums else enums ++ [enumType enum]

/-- The enum that a field refers to. -/
def fieldEnum? (pool : Pool) (field : Field) : Option Enum :=
  if field.kind = .enum then pool.enum? field.enum else none

/-- Registers the enums of the fields walked over. -/
def addEnums (pool : Pool) (enums : List Schema.EnumType) (steps : List Step) : List Schema.EnumType :=
  (steps.filterMap fun step => step.field?.bind (fieldEnum? pool)).foldl addEnum enums

/-- Registers the object types of the messages below an output message. -/
def addOutput (pool : Pool) (schema : Schema) (place : Nat) : Logged Schema :=
  let steps := Walk.visit pool objectName (schema.types.map (·.name)) place
  { value :=
      { schema with
        types := schema.types ++ (Walk.entered steps).map (objectType pool)
        enums := addEnums pool schema.enums steps }
    events := steps.flatMap (outputEvents pool) }

/-- Registers the input types of the messages below a request message. -/
def addInput (pool : Pool) (schema : Schema) (place : Nat) : Logged Schema :=
  let steps := Walk.visit pool inputName (schema.inputs.map (·.name)) place
  { value :=
      { schema with
        inputs := schema.inputs ++ (Walk.entered steps).map (inputType pool)
        enums := addEnums pool schema.enums steps }
    events := steps.flatMap inputEvents }

def addRootField (schema : Schema) (operation : Operation) (field : Schema.Field) : Schema :=
  match operation with
  | .query => { schema with query := schema.query ++ [field] }
  | .mutation => { schema with mutation := schema.mutation ++ [field] }

/-- The request message that a method takes as its argument: one that has fields. -/
def request? (pool : Pool) (method : Method) : Option (Nat × Message) := do
  let place ← method.input
  let message ← pool.messages[place]?
  if message.fields.isEmpty then none else some (place, message)

def rootField (pool : Pool) (method : Method) (output : Message) : Schema.Field where
  name := Naming.lowerFirst method.name
  type := objectName output
  comment := Comment.clean method.comment
  arguments := (request? pool method).toList.map fun (_, message) => inputName message

/-- The output message of a method with its place. -/
def output? (pool : Pool) (method : Method) : Option (Nat × Message) := do
  let place ← method.output
  let message ← pool.messages[place]?
  return (place, message)

def addMethod (pool : Pool) (schema : Schema) (method : Method) : Logged Schema :=
  match output? pool method with
  | none => do
    Logged.log (.outputMissing method.name)
    return schema
  | some (place, output) => do
    let schema ← addOutput pool schema place
    let schema ←
      match request? pool method with
      | some (place, _) => addInput pool schema place
      | none => pure schema
    return addRootField schema (classify method.name) (rootField pool method output)

def addMethods (pool : Pool) (service : String) (schema : Schema) :
    List (Option Method) → Logged Schema
  | [] => pure schema
  | none :: rest => do
    Logged.log (.methodMissing service)
    addMethods pool service schema rest
  | some method :: rest => do
    addMethods pool service (← addMethod pool schema method) rest

/-- A service without methods. -/
def emptySchema (service : Service) : Schema where
  service := service.fullName
  source := service.source
  comment := Comment.clean service.comment

/-- The schema of a service. Each method becomes a root field; the messages that its output refers to
become object types, those of its request input types, and the enums met on the way enum types. A
definition is the image of the first message or enum that has its name. -/
def build (pool : Pool) (service : Service) : Logged Schema := do
  let schema ← addMethods pool service.fullName (emptySchema service) service.methods
  Logged.log (.schemaBuilt service.fullName schema.types.length schema.inputs.length schema.enums.length)
  return schema

/-- Adds the schema of a service to those built before. -/
def addService (pool : Pool) (schemas : Registry Schema) :
    Option Service → Logged (Registry Schema)
  | none => do
    Logged.log .serviceMissing
    return schemas
  | some service => do
    return schemas.put service.fullName (← build pool service)

/-- One schema for each full name. Of services that share a name the last one counts. -/
def buildAll (pool : Pool) (services : List (Option Service)) : Logged (Registry Schema) :=
  services.foldlM (addService pool) []

end Subgraph.Build
