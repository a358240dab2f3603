import Subgraph.Sdl.Directive
import Subgraph.Text.Quoted

namespace Subgraph.Template

open Schema

inductive Value where
  | text (value : String)
  | int (value : Int)
  | bool (value : Bool)
  | none
  | list (items : List Value)
  | schema (schema : Schema)
  | object (type : ObjectType)
  | input (type : InputType)
  | enum (type : EnumType)
  | option (option : EnumOption)
  | field (field : Field)
  | loop (index : Nat)
  /-- A name or attribute that does not exist. It may be handed on, and any use of it fails. -/
  | undefined (reason : String)

/-- Why a template cannot be carried out. -/
inductive EvalFault where
  | undefined (reason : String)
  | wrongType (kind reason : String)
  deriving DecidableEq, Repr

def EvalFault.message : EvalFault → String
  | undefined reason => reason
  | wrongType kind reason => s!"{kind}: {reason}"

namespace Value

/-- The name of the kind of a value, for messages. -/
def kind : Value → String
  | text _ => "str"
  | int _ => "int"
  | bool _ => "bool"
  | none => "NoneType"
  | list _ => "list"
  | schema _ => "Schema"
  | object _ => "Type"
  | input _ => "Input"
  | enum _ => "Enum"
  | option _ => "EnumOption"
  | field _ => "Field"
  | loop _ => "LoopContext"
  | undefined _ => "StrictUndefined"

/-- The value as the owner of something that it lacks. -/
def owner : Value → String
  | none => "None"
  | loop _ => "jinja2.runtime.LoopContext object"
  | value@(schema _) | value@(object _) | value@(input _) | value@(enum _) | value@(option _)
  | value@(field _) => s!"protoc_gen_graphql.core.schema.{value.kind} object"
  | value => s!"{value.kind} object"

def missingAttribute (value : Value) (name : String) : Value :=
  undefined s!"'{value.owner}' has no attribute '{name}'"

def missingItem (value : Value) (index : Int) : Value :=
  undefined s!"{value.owner} has no element {index}"

def ofOption : Option String → Value
  | some value => text value
  | Option.none => none

/-- The attributes of schemas and what they hold. -/
def member? : Value → String → Option Value
  | schema s, "service_name" => some (text s.service)
  | schema s, "source" => some (text s.source)
  | schema s, "comment" => some (text s.comment)
  | schema s, "root_query" => some (object s.queryRoot)
  | schema s, "root_mutation" => some (object s.mutationRoot)
  | schema s, "types" => some (list (s.types.map object))
  | schema s, "inputs" => some (list (s.inputs.map input))
  | schema s, "enums" => some (list (s.enums.map enum))
  | schema s, "entities" => some (list (s.entities.map object))
  | schema s, "has_queries" => some (bool !s.query.isEmpty)
  | schema s, "has_mutations" => some (bool !s.mutation.isEmpty)
  | object t, "name" => some (text t.name)
  | object t, "comment" => some (text t.comment)
  | object t, "fields" => some (list (t.fields.map field))
  | object t, "is_federated_entity" => some (bool t.federated)
  | object t, "key_fields" => some (text t.keyField)
  | input t, "name" => some (text t.name)
  | input t, "comment" => some (text t.comment)
  | input t, "fields" => some (list (t.fields.map field))
  | enum t, "name" => some (text t.name)
  | enum t, "comment" => some (text t.comment)
  | enum t, "options" => some (list (t.options.map option))
  | option o, "name" => some (text o.name)
  | option o, "comment" => some (text o.comment)
  | field f, "name" => some (text f.name)
  | field f, "type" => some (text f.type)
  | field f, "comment" => some (text f.comment)
  | field f, "is_required" => some (bool f.required)
  | field f, "is_key" => some (bool f.key)
  | field f, "is_external" => some (bool f.external)
  | field f, "requires" => some (ofOption f.requires)
  | field f, "computed_from" => some (ofOption f.computedFrom)
  | loop index, "index" => some (int index)
  | loop index, "index0" => some (int (index - 1 : Int))
  | loop index, "first" => some (bool (index == 1))
  | _, _ => Option.none

def member (value : Value) (name : String) : Except EvalFault Value :=
  match value with
  | undefined reason => .error (.undefined reason)
  | value => .ok ((value.member? name).getD (value.missingAttribute name))

/-- The item at an index, counted from the end when negative. -/
def item (value index : Value) : Except EvalFault Value :=
  match value, index with
  | undefined reason, _ => .error (.undefined reason)
  | list items, int i =>
    let place := if i < 0 then i + items.length else i
    let found := if place < 0 then Option.none else items[place.toNat]?
    .ok (found.getD (value.missingItem i))
  | value, text name => value.member name
  | value, int i => .ok (value.missingItem i)
  | value, _ => .ok (value.missingItem 0)

mutual

/-- The text of a value; inside a list strings stand in quotes. -/
def shown (inList : Bool) : Value → Except EvalFault String
  | text value => .ok (if inList then Text.quoted value else value)
  | int value => .ok (toString value)
  | bool true => .ok "True"
  | bool false => .ok "False"
  | none => .ok "None"
  | list items => do
    let texts ← shownAll items
    return "[" ++ ", ".intercalate texts ++ "]"
  | undefined reason => .error (.undefined reason)
  | value => .ok s!"<{value.owner}>"

def shownAll : List Value → Except EvalFault (List String)
  | [] => .ok []
  | value :: rest => do
    let text ← shown true value
    return text :: (← shownAll rest)

end

def print (value : Value) : Except EvalFault String :=
  value.shown false

/-- Whether a value counts as true. -/
def holds : Value → Except EvalFault Bool
  | text value => .ok !value.isEmpty
  | int value => .ok (value != 0)
  | bool value => .ok value
  | none => .ok false
  | list items => .ok !items.isEmpty
  | undefined reason => .error (.undefined reason)
  | _ => .ok true

def items : Value → Except EvalFault (List Value)
  | list items => .ok items
  | text value => .ok (value.toList.map fun c => text c.toString)
  | undefined reason => .error (.undefined reason)
  | value => .error (.wrongType "TypeError" s!"'{value.kind}' object is not iterable")

def size : Value → Except EvalFault Nat
  | list items => .ok items.length
  | text value => .ok value.length
  | undefined reason => .error (.undefined reason)
  | value => .error (.wrongType "TypeError" s!"object of type '{value.kind}' has no len()")

/-- The text that a value is, or a failure to use the value as text in the named way. -/
def asText (use : String) : Value → Except EvalFault String
  | text value => .ok value
  | undefined reason => .error (.undefined reason)
  | value => .error (.wrongType "AttributeError" s!"'{value.kind}' object has no attribute '{use}'")

end Value

end Subgraph.Template
