import Subgraph.Template.Basic
import Subgraph.Template.Value

namespace Subgraph.Template

def lacks (value : Value) (use : String) : EvalFault :=
  match value with
  | .undefined reason => .undefined reason
  | value => .wrongType "AttributeError" s!"'{value.kind}' object has no attribute '{use}'"

def onText (use : String) (rule : String → Value) (value : Value) : Except EvalFault Value := do
  return rule (← value.asText use)

/-- A rule on a text and a second text. An empty second text leaves `value` unused where the rule
does not look at it. -/
def onTexts (use : String) (rule : String → String → Value) (value second : Value) :
    Except EvalFault Value := do
  let text ← value.asText use
  let second ← second.asText use
  return rule text second

def onField (use : String) (rule : Schema.Field → Value) : Value → Except EvalFault Value
  | .field field => .ok (rule field)
  | value => .error (lacks value use)

def onFields (rule : List Schema.Field → Value) : Value → Except EvalFault Value
  | .object type => .ok (rule type.fields)
  | .input type => .ok (rule type.fields)
  | value => .error (lacks value "fields")

def ofDefinition : Option Schema.Definition → Value
  | some (.object type) => .object type
  | some (.input type) => .input type
  | some (.enum type) => .enum type
  | Option.none => .none

/-- Calls a helper. -/
def callHelper (name : String) (arguments : List Value) : Except EvalFault Value :=
  match name, arguments with
  | "pascal", [value] => onText "strip" (.text ∘ Naming.pascal) value
  | "camel", [value] => onText "strip" (.text ∘ Naming.camel) value
  | "snake", [value] => onText "strip" (.text ∘ Naming.snake) value
  | "lower_first", [value] => onText "lower" (.text ∘ Naming.lowerFirst) value
  | "trim", [value] => onText "strip" (.text ∘ Text.onChars Text.trim) value
  | "trim_prefix", [value, start] =>
    onTexts "startswith" (fun text start => .text (Text.removeStart start text)) value start
  | "trim_suffix", [value, ending] =>
    onTexts "endswith" (fun text ending => .text (Text.removeEnd ending text)) value ending
  | "has_prefix", [value, start] =>
    onTexts "startswith" (fun text start => .bool (Text.startsWith start text)) value start
  | "has_suffix", [value, ending] =>
    onTexts "endswith" (fun text ending => .bool (Text.endsWith ending text)) value ending
  | "gql_string", [value] => do return .text (Sdl.quote (← value.print))
  | "is_id_name", [value] => onText "lower" (.bool ∘ Naming.isIdName) value
  | "description", [comment] => onText "strip" (.text ∘ (Sdl.description · "")) comment
  | "description", [comment, indent] =>
    onTexts "strip" (fun comment indent => .text (Sdl.description comment indent)) comment indent
  | "lookup", [.schema schema, name] => onText "strip" (ofDefinition ∘ schema.lookup) name
  | "lookup", [value, _] => .error (lacks value "lookup")
  | "has_field_with_suffix", [value, ending] => do
    let ending ← ending.asText "endswith"
    onFields (fun fields => .bool (Schema.endsWithAny fields ending)) value
  | "id_field_name", [.object type] => .ok (.text type.idField)
  | "id_field_name", [.input type] => .ok (.text type.idField)
  | "id_field_name", [value] => .error (lacks value "fields")
  | "field_comment", [value] => onField "computed_from" (.text ·.note) value
  | "arguments", [value] => onField "inputs" (.text ·.argumentList) value
  | "field_directives", [value] => onField "is_external" (.text ·.directives) value
  | "type_directives", [.object type] => .ok (.text type.directives)
  | "type_directives", [value] => .error (lacks value "is_federated_entity")
  | "federation_imports", [.schema schema] => .ok (.list (schema.federationImports.map .text))
  | "federation_imports", [value] => .error (lacks value "types")
  | name, _ =>
    if helperNames.contains name then
      .error (.wrongType "TypeError" s!"{name}() called with {arguments.length} arguments")
    else .error (.undefined s!"'{name}' is undefined")

/-- Applies a filter to a value. -/
def applyFilter (name : String) (value : Value) (arguments : List Value) : Except EvalFault Value :=
  match name, arguments with
  | "length", [] => do return .int (← value.size)
  | "join", [] => do return .text (String.join (← (← value.items).mapM Value.print))
  | "join", [.text separator] => do
    return .text (separator.intercalate (← (← value.items).mapM Value.print))
  | "map", .text inner :: rest => do
    return .list (← (← value.items).mapM fun item => callHelper inner (item :: rest))
  | name, arguments => callHelper name (value :: arguments)

end Subgraph.Template
