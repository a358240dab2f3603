import Subgraph.Naming.Words
import Subgraph.Text.Chars

namespace Subgraph.Naming

open Text

def lowerFirst : String → String := onChars Words.lowerFirst

def upperFirst : String → String := onChars Words.upperFirst

def snake : String → String := onChars Words.snake

def camel : String → String := onChars Words.camel

def pascal : String → String := onChars Words.pascal

/-- The name of an object or enum type: the first character in upper case, characters that GraphQL
does not allow left out. -/
def typeName : String → String := onChars Words.typeName

/-- The name of a field: camel case, characters that GraphQL does not allow left out. -/
def fieldName : String → String := onChars Words.fieldName

/-- The name of the input type made from a request message. -/
def inputName (message : String) : String :=
  typeName (removeEnd "Request" message) ++ "Input"

/-- A name that ends in `_id` or `Id` with something before it. -/
def isKeyName (name : String) : Bool :=
  (endsWith "_id" name && 3 < name.length) || (endsWith "Id" name && 2 < name.length)

/-- The name `id` in any case, or a key name. -/
def isIdName (name : String) : Bool :=
  lower name.toList == ['i', 'd'] || isKeyName name

/-- The file of the schema generated for a service. -/
def schemaFile (service : String) : String :=
  service ++ ".graphql"

end Subgraph.Naming
