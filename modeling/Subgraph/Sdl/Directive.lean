import Subgraph.Naming
import Subgraph.Schema
import Subgraph.Sdl.Literal

namespace Subgraph

namespace Schema

/-- The selection that a field requires; an empty one is none. -/
def Field.requirement? (field : Field) : Option String :=
  field.requires.filter (!·.isEmpty)

/-- The comment of a field, with a note on the fields that it is computed from. -/
def Field.note (field : Field) : String :=
  match field.computedFrom.filter (!·.isEmpty) with
  | none => field.comment
  | some origin =>
    if field.comment.isEmpty then s!"Computed from: {origin}"
    else s!"{field.comment} (Computed from: {origin})"

/-- The arguments of a root field in parentheses. -/
def Field.argumentList (field : Field) : String :=
  if field.arguments.isEmpty then ""
  else "(" ++ ", ".intercalate (field.arguments.map fun input => s!"input: {input}!") ++ ")"

def ObjectType.directives (type : ObjectType) : String :=
  if type.federated && !type.keyField.isEmpty then s!" @key(fields: {Sdl.quote type.keyField})" else ""

def Field.directives (field : Field) : String :=
  (if field.external then " @external" else "") ++
    match field.requirement? with
    | some selection => s!" @requires(fields: {Sdl.quote selection})"
    | none => ""

def endsWithAny (fields : List Field) (ending : String) : Bool :=
  fields.any fun field => Text.endsWith ending field.name

/-- The first field named like an identifier. -/
def identifyingName (fields : List Field) : String :=
  match fields.find? (Naming.isIdName ·.name) with
  | some field => field.name
  | none => ""

/-- The field that identifies a type: its key, or else the first one named like an identifier. -/
def ObjectType.idField (type : ObjectType) : String :=
  if type.keyField.isEmpty then identifyingName type.fields else type.keyField

def InputType.idField (type : InputType) : String :=
  identifyingName type.fields

end Schema

/-- The federation directives that a schema uses, in a fixed order. -/
def Schema.federationImports (schema : Schema) : List String :=
  let fields := schema.types.flatMap (·.fields)
  (if schema.entities.isEmpty then [] else ["@key"]) ++
    (if fields.any (·.external) then ["@external"] else []) ++
    (if fields.any (·.requirement?.isSome) then ["@requires"] else [])

end Subgraph
