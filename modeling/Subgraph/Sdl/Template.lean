namespace Subgraph.Sdl

def templateLines : List String :=
  ["\x7b#- Default template: GraphQL schema for one service. Root data: `schema`. -#\x7d",
   "# Code generated by protoc-gen-graphql. DO NOT EDIT.",
   "# source: \x7b\x7b schema.source \x7d\x7d",
   "# service: \x7b\x7b schema.service_name \x7d\x7d",
   "\x7b% if schema.comment %\x7d",
   "# \x7b\x7b schema.comment \x7d\x7d",
   "\x7b% endif %\x7d",
   "\x7b% if federation_imports(schema) %\x7d",
   "",
   "extend schema @link(url: \"https://specs.apollo.dev/federation/v2.3\", import: [" ++
     "\x7b\x7b federation_imports(schema) | map(\"gql_string\") | join(\", \") \x7d\x7d])",
   "\x7b% endif %\x7d",
   "",
   "type Query \x7b",
   "\x7b% for field in schema.root_query.fields %\x7d",
   "\x7b\x7b description(field.comment, \"  \") \x7d\x7d  " ++
     "\x7b\x7b field.name \x7d\x7d\x7b\x7b arguments(field) \x7d\x7d: \x7b\x7b field.type \x7d\x7d",
   "\x7b% else %\x7d",
   "  _empty: Boolean",
   "\x7b% endfor %\x7d",
   "\x7d",
   "\x7b% if schema.has_mutations %\x7d",
   "",
   "type Mutation \x7b",
   "\x7b% for field in schema.root_mutation.fields %\x7d",
   "\x7b\x7b description(field.comment, \"  \") \x7d\x7d  " ++
     "\x7b\x7b field.name \x7d\x7d\x7b\x7b arguments(field) \x7d\x7d: \x7b\x7b field.type \x7d\x7d",
   "\x7b% endfor %\x7d",
   "\x7d",
   "\x7b% endif %\x7d",
   "\x7b% for type in schema.types %\x7d",
   "",
   "\x7b\x7b description(type.comment) \x7d\x7dtype " ++
     "\x7b\x7b type.name \x7d\x7d\x7b\x7b type_directives(type) \x7d\x7d \x7b",
   "\x7b% for field in type.fields %\x7d",
   "\x7b\x7b description(field_comment(field), \"  \") \x7d\x7d  " ++
     "\x7b\x7b field.name \x7d\x7d: \x7b\x7b field.type \x7d\x7d\x7b\x7b field_directives(field) \x7d\x7d",
   "\x7b% else %\x7d",
   "  _empty: Boolean",
   "\x7b% endfor %\x7d",
   "\x7d",
   "\x7b% endfor %\x7d",
   "\x7b% for input in schema.inputs %\x7d",
   "",
   "\x7b\x7b description(input.comment) \x7d\x7dinput \x7b\x7b input.name \x7d\x7d \x7b",
   "\x7b% for field in input.fields %\x7d",
   "\x7b\x7b description(field.comment, \"  \") \x7d\x7d  " ++
     "\x7b\x7b field.name \x7d\x7d: \x7b\x7b field.type \x7d\x7d",
   "\x7b% else %\x7d",
   "  _empty: Boolean",
   "\x7b% endfor %\x7d",
   "\x7d",
   "\x7b% endfor %\x7d",
   "\x7b% for enum in schema.enums %\x7d",
   "",
   "\x7b\x7b description(enum.comment) \x7d\x7denum \x7b\x7b enum.name \x7d\x7d \x7b",
   "\x7b% for option in enum.options %\x7d",
   "  \x7b\x7b option.name \x7d\x7d # \x7b\x7b option.comment \x7d\x7d",
   "\x7b% endfor %\x7d",
   "\x7d",
   "\x7b% endfor %\x7d"]

/-- The file name of the standard template. -/
def templateName : String :=
  "graphql-service-schema.graphql.j2"

/-- The text of the standard template. -/
def template : String :=
  String.join (templateLines.map (· ++ "\n"))

end Subgraph.Sdl
