import Subgraph.Descriptor
import Subgraph.Event

namespace Subgraph.Federation

open Descriptor

/-- A decision and where it came from. -/
inductive Resolution where
  | explicit (value : Bool)
  | byName (value : Bool)
  deriving DecidableEq, Repr

namespace Resolution

def holds : Resolution → Bool
  | explicit value => value
  | byName value => value

def isExplicit : Resolution → Bool
  | explicit _ => true
  | byName _ => false

def summary : Resolution → String
  | explicit true => "Resolution.EXPLICIT_TRUE"
  | explicit false => "Resolution.EXPLICIT_FALSE"
  | byName true => "Resolution.heuristic(True)"
  | byName false => "Resolution.heuristic(False)"

end Resolution

/-- Domain nouns that are entities by their name alone. -/
def entityNames : List String :=
  ["Product", "Order", "User"]

/-- Reads an option that decides, and asks `byName` when there is none to read. -/
def resolve (options : OptionSet) (number : Nat) (subject : Subject) (byName : Logged Bool) :
    Logged Resolution :=
  match options.bool? number with
  | .ok (some value) => pure (.explicit value)
  | .ok none => do
    Logged.log (.optionAbsent number subject)
    return .byName (← byName)
  | .error fault => do
    Logged.log (.optionUnreadable subject fault)
    return .byName (← byName)

def resolveKey (field : Field) : Logged Resolution :=
  resolve field.options OptionSet.keyOption (.field field.name) do
    if Naming.isKeyName field.name then
      Logged.log (.keyByName field.name)
      return true
    return false

/-- The first field that resolves as a key. -/
def keyFieldAmong : List (Option Field) → Logged (Option Field)
  | [] => pure none
  | none :: rest => keyFieldAmong rest
  | some field :: rest => do
    if (← resolveKey field).holds then return some field
    keyFieldAmong rest

def findKeyField (message : Message) : Logged (Option Field) :=
  keyFieldAmong message.fields

/-- Without a readable option a message is an entity by its name, or when it has a key field.
`hasKey` is that answer where the caller knows it already. -/
def resolveEntity (message : Message) (hasKey : Option Bool) : Logged Resolution :=
  resolve message.options OptionSet.entityOption (.message message.name) do
    if entityNames.contains message.name then
      Logged.log (.entityByName message.name)
      return true
    match hasKey with
    | some known => return known
    | none => return (← findKeyField message).isSome

/-- The field belongs to another subgraph. An option that cannot be read counts as absent. -/
def isExternal (field : Field) : Logged Bool :=
  match field.options.bool? OptionSet.externalOption with
  | .ok value => pure (value.getD false)
  | .error fault => do
    Logged.log (.directiveUnreadable "external" field.name fault)
    return false

/-- A text option of a field. Empty texts and texts that cannot be read count as absent. -/
def textOption (field : Field) (number : Nat) (directive : String) : Logged (Option String) :=
  match field.options.text? number with
  | .ok value => pure (value.filter (!·.isEmpty))
  | .error fault => do
    Logged.log (.directiveUnreadable directive field.name fault)
    return none

/-- The selection of other fields that the field requires. -/
def requiredSelection (field : Field) : Logged (Option String) :=
  textOption field OptionSet.requiresOption "requires"

/-- The fields that a computed field is derived from. -/
def computedFrom (field : Field) : Logged (Option String) :=
  textOption field OptionSet.computedFromOption "computed_from"

end Subgraph.Federation
