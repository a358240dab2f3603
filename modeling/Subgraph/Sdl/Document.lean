import Subgraph.Sdl.Directive

namespace Subgraph.Sdl

open Schema

/-- A body that would be empty holds this field, since GraphQL has no empty types. -/
def placeholder : String :=
  "  _empty: Boolean\n"

def fieldLines (render : Field → String) (fields : List Field) : String :=
  if fields.isEmpty then placeholder else String.join (fields.map render)

def rootFieldLines (field : Field) : String :=
  description field.comment "  " ++ s!"  {field.name}{field.argumentList}: {field.type}\n"

def objectFieldLines (field : Field) : String :=
  description field.note "  " ++ s!"  {field.name}: {field.type}{field.directives}\n"

def inputFieldLines (field : Field) : String :=
  description field.comment "  " ++ s!"  {field.name}: {field.type}\n"

def block (head body : String) : String :=
  head ++ " \x7b\n" ++ body ++ "\x7d\n"

def objectBlock (type : ObjectType) : String :=
  "\n" ++ description type.comment "" ++
    block s!"type {type.name}{type.directives}" (fieldLines objectFieldLines type.fields)

def inputBlock (type : InputType) : String :=
  "\n" ++ description type.comment "" ++
    block s!"input {type.name}" (fieldLines inputFieldLines type.fields)

def enumBlock (type : EnumType) : String :=
  "\n" ++ description type.comment "" ++
    block s!"enum {type.name}"
      (String.join (type.options.map fun option => s!"  {option.name} # {option.comment}\n"))

/-- The comment lines at the top. -/
def header (schema : Schema) : String :=
  "# Code generated by protoc-gen-graphql. DO NOT EDIT.\n" ++
    s!"# source: {schema.source}\n" ++ s!"# service: {schema.service}\n" ++
    if schema.comment.isEmpty then "" else s!"# {schema.comment}\n"

/-- The link to the federation directives that the document uses. -/
def link (schema : Schema) : String :=
  let imports := schema.federationImports
  if imports.isEmpty then ""
  else
    "\nextend schema @link(url: \"https://specs.apollo.dev/federation/v2.3\", import: [" ++
      ", ".intercalate (imports.map quote) ++ "])\n"

def document (schema : Schema) : String :=
  header schema ++ link schema ++
    "\n" ++ block "type Query" (fieldLines rootFieldLines schema.query) ++
    (if schema.mutation.isEmpty then ""
     else "\n" ++ block "type Mutation" (String.join (schema.mutation.map rootFieldLines))) ++
    String.join (schema.types.map objectBlock) ++
    String.join (schema.inputs.map inputBlock) ++
    String.join (schema.enums.map enumBlock)

end Subgraph.Sdl
