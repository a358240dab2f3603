namespace Subgraph

namespace Schema

/-- A field of an object or input type. `type` is a decorated type expression, `arguments` names the
input types that a root field takes. -/
structure Field where
  name : String
  type : String := "String"
  comment : String := ""
  arguments : List String := []
  required : Bool := false
  key : Bool := false
  external : Bool := false
  requires : Option String := none
  computedFrom : Option String := none
  deriving DecidableEq, Repr

/-- An object type. A federated entity is found by the field that `keyField` names. -/
structure ObjectType where
  name : String
  fields : List Field := []
  comment : String := ""
  federated : Bool := false
  keyField : String := ""
  deriving DecidableEq, Repr

structure InputType where
  name : String
  fields : List Field := []
  comment : String := ""
  deriving DecidableEq, Repr

structure EnumOption where
  name : String
  comment : String := ""
  deriving DecidableEq, Repr

structure EnumType where
  name : String
  options : List EnumOption := []
  comment : String := ""
  deriving DecidableEq, Repr

/-- A named definition. -/
inductive Definition where
  | object (type : ObjectType)
  | input (type : InputType)
  | enum (type : EnumType)
  deriving DecidableEq, Repr

def Definition.name : Definition → String
  | object type => type.name
  | input type => type.name
  | enum type => type.name

def ObjectType.field? (type : ObjectType) (name : String) : Option Field :=
  type.fields.find? (·.name == name)

end Schema

open Schema

structure Schema where
  service : String
  source : String := ""
  comment : String := ""
  query : List Field := []
  mutation : List Field := []
  types : List ObjectType := []
  inputs : List InputType := []
  enums : List EnumType := []
  deriving DecidableEq, Repr

namespace Schema

def queryRoot (schema : Schema) : ObjectType :=
  { name := "Query", fields := schema.query }

def mutationRoot (schema : Schema) : ObjectType :=
  { name := "Mutation", fields := schema.mutation }

def entities (schema : Schema) : List ObjectType :=
  schema.types.filter (·.federated)

def type? (schema : Schema) (name : String) : Option ObjectType :=
  schema.types.find? (·.name == name)

def input? (schema : Schema) (name : String) : Option InputType :=
  schema.inputs.find? (·.name == name)

def enum? (schema : Schema) (name : String) : Option EnumType :=
  schema.enums.find? (·.name == name)

/-- The definition of a name: an object type before an input type, an input type before an enum. -/
def lookup (schema : Schema) (name : String) : Option Definition :=
  ((schema.type? name).map .object).or
    (((schema.input? name).map .input).or ((schema.enum? name).map .enum))

end Schema

end Subgraph
