import Subgraph.Naming

namespace Subgraph

/-- The kind of value that a message field holds. -/
inductive Kind where
  | unknown | double | float | int64 | uint64 | int32 | fixed64 | fixed32 | bool | string | group
  | message | bytes | uint32 | enum | sfixed32 | sfixed64 | sint32 | sint64
  deriving DecidableEq, Repr

namespace Kind

/-- The kinds in the order of their numbers. -/
def all : List Kind :=
  [unknown, double, float, int64, uint64, int32, fixed64, fixed32, bool, string, group, message,
   bytes, uint32, enum, sfixed32, sfixed64, sint32, sint64]

def number (kind : Kind) : Nat :=
  all.idxOf kind

/-- A number that no kind has stands for an unknown kind. -/
def ofNumber (number : Int) : Kind :=
  if number < 0 then unknown else (all[number.toNat]?).getD unknown

def name : Kind → String
  | unknown => "UNKNOWN"
  | double => "DOUBLE"
  | float => "FLOAT"
  | int64 => "INT64"
  | uint64 => "UINT64"
  | int32 => "INT32"
  | fixed64 => "FIXED64"
  | fixed32 => "FIXED32"
  | bool => "BOOL"
  | string => "STRING"
  | group => "GROUP"
  | message => "MESSAGE"
  | bytes => "BYTES"
  | uint32 => "UINT32"
  | enum => "ENUM"
  | sfixed32 => "SFIXED32"
  | sfixed64 => "SFIXED64"
  | sint32 => "SINT32"
  | sint64 => "SINT64"

/-- Messages and groups: the value is itself a message. -/
def isComposite : Kind → Bool
  | message | group => true
  | _ => false

/-- The GraphQL scalar for values of a kind. Bytes travel as base64 text, and what has no scalar of
its own as a string. -/
def scalar : Kind → String
  | int32 | int64 | uint32 | uint64 | sint32 | sint64 | fixed32 | fixed64 | sfixed32 | sfixed64 => "Int"
  | float | double => "Float"
  | bool => "Boolean"
  | _ => "String"

/-- The GraphQL scalar for a field: a string with the name of an identifier is an ID. -/
def scalarFor (kind : Kind) (field : Option String) : String :=
  if kind = string ∧ field.any Naming.isIdName then "ID" else kind.scalar

end Kind

end Subgraph
