import Subgraph.Schema
import Subgraph.TypeExpr

namespace Subgraph.Validation

open Schema

inductive DefinitionKind where
  | object
  | input
  | enum
  deriving DecidableEq, Repr

def DefinitionKind.word : DefinitionKind → String
  | object => "type"
  | input => "input"
  | enum => "enum"

inductive Problem where
  | rootClash (kind : DefinitionKind) (name : String)
  | nameTaken (kind : DefinitionKind) (name : String) (holder : DefinitionKind)
  | malformedType (fault : TypeExpr.Fault)
  | unknownType (base : String)
  | unknownArgument (input : String)
  | missingKey (key : String)
  deriving DecidableEq, Repr

def Problem.message : Problem → String
  | rootClash kind name => s!"{kind.word} name '{name}' clashes with a root operation type"
  | nameTaken kind name holder => s!"{kind.word} name '{name}' already used by a {holder.word}"
  | malformedType fault => fault.message
  | unknownType base => s!"Unknown type '{base}'"
  | unknownArgument input => s!"Argument input '{input}' is not registered"
  | missingKey key => s!"Key field '{key}' not in fields"

/-- A problem with the definition, and the field of it, where it shows. -/
structure Issue where
  type : Option String := none
  field : Option String := none
  problem : Problem
  deriving DecidableEq, Repr

/-- A message with the place that it is about. Empty names say nothing. -/
def located (type field : Option String) (message : String) : String :=
  let names := [type, field].filterMap fun name => name.filter (!·.isEmpty)
  let place := if names.isEmpty then "schema" else ".".intercalate names
  s!"[{place}] {message}"

def Issue.message (issue : Issue) : String :=
  located issue.type issue.field issue.problem.message

/-- Names that the two root types have taken. -/
def rootNames : List String :=
  ["Query", "Mutation"]

/-- All definitions share one space of names. -/
def entries (schema : Schema) : List (String × DefinitionKind) :=
  schema.types.map (·.name, .object) ++ schema.inputs.map (·.name, .input) ++
    schema.enums.map (·.name, .enum)

/-- Problems with the names of definitions, when those in `taken` stand before them. -/
def nameIssues (taken : List (String × DefinitionKind)) : List (String × DefinitionKind) → List Issue
  | [] => []
  | (name, kind) :: rest =>
    if rootNames.contains name then
      { type := some name, problem := .rootClash kind name } :: nameIssues taken rest
    else
      match taken.lookup name with
      | some holder =>
        { type := some name, problem := .nameTaken kind name holder } :: nameIssues taken rest
      | none => nameIssues ((name, kind) :: taken) rest

/-- What is wrong with a type expression that may refer to the names `known`. -/
def typeProblem? (known : List String) (type : String) : Option Problem :=
  match TypeExpr.check type with
  | some fault => some (.malformedType fault)
  | none =>
    let base := TypeExpr.baseName type
    if TypeExpr.isScalar base || known.contains base then none else some (.unknownType base)

def fieldIssues (known : List String) (owner : String) (field : Field) : List Issue :=
  (typeProblem? known field.type).toList.map fun problem =>
    { type := some owner, field := some field.name, problem }

def argumentIssues (inputs : List String) (owner : String) (field : Field) : List Issue :=
  (field.arguments.filter (!inputs.contains ·)).map fun input =>
    { type := some owner, field := some field.name, problem := .unknownArgument input }

def rootIssues (types inputs : List String) (root : ObjectType) : List Issue :=
  root.fields.flatMap fun field =>
    fieldIssues types root.name field ++ argumentIssues inputs root.name field

def keyIssues (type : ObjectType) : List Issue :=
  if type.federated && (type.field? type.keyField).isNone then
    [{ type := some type.name, problem := .missingKey type.keyField }]
  else []

/-- All problems of a schema: names first, then root fields, object types and input types. -/
def validate (schema : Schema) : List Issue :=
  let types := schema.types.map (·.name)
  let inputs := schema.inputs.map (·.name)
  let enums := schema.enums.map (·.name)
  nameIssues [] (entries schema) ++
    rootIssues types inputs schema.queryRoot ++
    rootIssues types inputs schema.mutationRoot ++
    schema.types.flatMap (fun type =>
      type.fields.flatMap (fieldIssues (types ++ enums) type.name) ++ keyIssues type) ++
    schema.inputs.flatMap fun input =>
      input.fields.flatMap (fieldIssues (inputs ++ enums) input.name)

end Subgraph.Validation
