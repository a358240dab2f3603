import Subgraph.Kind
import Subgraph.Options

namespace Subgraph.Descriptor

structure EnumValue where
  name : String
  number : Int
  comment : String := ""
  deriving DecidableEq, Repr

structure Enum where
  name : String
  fullName : String
  values : List EnumValue := []
  comment : String := ""
  deriving DecidableEq, Repr

/-- A message field. It refers to its message or enum by the position in the pool; `presence` says
that the field tells an absent value from a default one. -/
structure Field where
  name : String
  number : Int := 1
  kind : Kind := .string
  repeated : Bool := false
  presence : Bool := false
  message : Option Nat := none
  enum : Option Nat := none
  options : OptionSet := {}
  comment : String := ""
  deriving DecidableEq, Repr

/-- A field that need not tell absence is never null. -/
def Field.required (field : Field) : Bool :=
  !field.presence

/-- A message; a field that is `none` is missing from the description. -/
structure Message where
  name : String
  fullName : String
  fields : List (Option Field) := []
  options : OptionSet := {}
  comment : String := ""
  deriving DecidableEq, Repr

structure Method where
  name : String
  input : Option Nat := none
  output : Option Nat := none
  comment : String := ""
  deriving DecidableEq, Repr

structure Service where
  name : String
  fullName : String
  methods : List (Option Method) := []
  comment : String := ""
  source : String := ""
  deriving DecidableEq, Repr

/-- All messages and enums that services may refer to. Messages may refer to themselves and to each
other. -/
structure Pool where
  messages : List Message := []
  enums : List Enum := []
  deriving DecidableEq, Repr

namespace Pool

def message? (pool : Pool) (reference : Option Nat) : Option Message :=
  reference.bind (pool.messages[·]?)

def enum? (pool : Pool) (reference : Option Nat) : Option Enum :=
  reference.bind (pool.enums[·]?)

/-- The field holds a message that the pool does not have. -/
def unresolved (pool : Pool) (field : Field) : Bool :=
  field.kind.isComposite && (pool.message? field.message).isNone

/-- The fields of a message that a schema shows: those present and resolved. -/
def keptFields (pool : Pool) (message : Message) : List Field :=
  (message.fields.filterMap id).filter (!pool.unresolved ·)

end Pool

end Subgraph.Descriptor
