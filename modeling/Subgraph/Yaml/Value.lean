import Subgraph.Basic
import Subgraph.Decimal
import Subgraph.Text.Quoted

namespace Subgraph.Yaml

/-- A value without parts. -/
inductive Scalar where
  | null
  | bool (value : Bool)
  | int (value : Int)
  | float (value : Double)
  | text (value : String)
  /-- A date, or a date with a time of day, as it was written. -/
  | time (written : String)
  deriving DecidableEq, Repr, Inhabited

namespace Scalar

/-- The name of a value's type as reports show it. -/
def typeName : Scalar → String
  | null => "NoneType"
  | bool _ => "bool"
  | int _ => "int"
  | float _ => "float"
  | text _ => "str"
  | time written => if written.length = 10 then "date" else "datetime"

/-- Whether a value says something: null, `false`, zero and the empty text do not. -/
def isTruthy : Scalar → Bool
  | null => false
  | bool value => value
  | int value => value != 0
  | float value => !value.isZero
  | text value => !value.isEmpty
  | time _ => true

def display : Scalar → String
  | null => "None"
  | bool true => "True"
  | bool false => "False"
  | int value => toString value
  | float value => value.text
  | text value => value
  | time written => written

/-- A value as it stands inside a list or a map, where texts are quoted. -/
def inner : Scalar → String
  | text value => Text.quoted value
  | value => value.display

def text? : Scalar → Option String
  | text value => some value
  | _ => none

end Scalar

/-- A value. The keys of a map have no parts. -/
inductive Value where
  | scalar (value : Scalar)
  | list (items : List Value)
  | map (entries : List (Scalar × Value))
  deriving Repr, Inhabited

/-- The entries of a map in the order of their keys' first occurrence. -/
abbrev Entries := Registry Value Scalar

namespace Value

@[match_pattern]
abbrev null : Value :=
  scalar .null

@[match_pattern]
abbrev text (value : String) : Value :=
  scalar (.text value)

def typeName : Value → String
  | scalar value => value.typeName
  | list _ => "list"
  | map _ => "dict"

/-- Whether a value says something. -/
def isTruthy : Value → Bool
  | scalar value => value.isTruthy
  | list items => !items.isEmpty
  | map entries => !entries.isEmpty

def isNull : Value → Bool
  | null => true
  | _ => false

mutual

/-- A value as it stands inside a list or a map. -/
def inner : Value → String
  | scalar value => value.inner
  | list items => "[" ++ ", ".intercalate (innerItems items) ++ "]"
  | map entries => "\x7b" ++ ", ".intercalate (innerEntries entries) ++ "\x7d"

def innerItems : List Value → List String
  | [] => []
  | item :: rest => inner item :: innerItems rest

def innerEntries : List (Scalar × Value) → List String
  | [] => []
  | (key, item) :: rest => (key.inner ++ ": " ++ inner item) :: innerEntries rest

end

/-- The text of a value. -/
def display : Value → String
  | scalar value => value.display
  | value => value.inner

end Value

def Entries.get? (entries : Entries) (key : String) : Option Value :=
  Registry.get? entries (.text key)

end Subgraph.Yaml
