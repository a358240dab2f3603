import Subgraph.Proofs.Draft.Register
import Subgraph.Proofs.Registration

namespace Subgraph.Build

open Descriptor

/-- Messages below outputs become object types, messages below requests become input types. -/
inductive Side where
  | output
  | request
  deriving DecidableEq, Repr

/-- A field whose type expression is built on a name. -/
def fieldOn (base : String) (field : Field) : Schema.Field where
  name := Naming.fieldName field.name
  type := TypeExpr.decorate base field.repeated field.required
  comment := Comment.clean field.comment
  required := field.required

namespace Side

/-- The definitions of a side. -/
abbrev Entry : Side → Type
  | output => Schema.ObjectType
  | request => Schema.InputType

/-- The name under which a message is registered. -/
def key : Side → Message → String
  | output => objectName
  | request => inputName

def nameOf : (side : Side) → side.Entry → String
  | output, type => type.name
  | request, type => type.name

/-- The definition of a message before its fields are walked. -/
def start : (side : Side) → Message → side.Entry
  | output, message => { name := objectName message, comment := Comment.clean message.comment }
  | request, message => { name := inputName message, comment := Comment.clean message.comment }

def fieldOf : Side → String → Field → Schema.Field
  | output, base, field =>
    { fieldOn base field with
      key := isKey field
      external := (Federation.isExternal field).value
      requires := (Federation.requiredSelection field).value
      computedFrom := (Federation.computedFrom field).value }
  | request, base, field => fieldOn base field

def addField (shown : Schema.Field) : (side : Side) → side.Entry → side.Entry
  | output, type => { type with fields := type.fields ++ [shown] }
  | request, type => { type with fields := type.fields ++ [shown] }

/-- What is left to do for a definition after its last field; `key?` is its first key. -/
def finish (message : Message) (key? : Option Schema.Field) : (side : Side) → side.Entry → side.Entry
  | output, type =>
    match (Federation.resolveEntity message (some key?.isSome)).value.holds, key? with
    | true, some key => { type with federated := true, keyField := key.name }
    | _, _ => type
  | request, type => type

end Side

structure Registers where
  types : Register Schema.ObjectType := {}
  inputs : Register Schema.InputType := {}
  enums : Register Schema.EnumType := {}

namespace Registers

def on (registers : Registers) : (side : Side) → Register side.Entry
  | .output => registers.types
  | .request => registers.inputs

def modify (registers : Registers) :
    (side : Side) → (Register side.Entry → Register side.Entry) → Registers
  | .output, update => { registers with types := update registers.types }
  | .request, update => { registers with inputs := update registers.inputs }

/-- Every register agrees with its index. -/
structure Consistent (registers : Registers) : Prop where
  types : registers.types.Consistent (·.name)
  inputs : registers.inputs.Consistent (·.name)
  enums : registers.enums.Consistent (·.name)

end Registers

/-- What a definition is looked up for. -/
inductive Sought where
  | message (side : Side) (message : Message)
  | enum (enum : Enum)
  deriving DecidableEq, Repr

/-- A definition being looked up, with the registers as they are at that moment. -/
structure Call where
  sought : Sought
  registers : Registers

/-- A schema drafted step by step. A definition is registered while it has no fields yet, so that a
message may come back to one that is not finished. `calls` keeps all that was looked up on the way. -/
structure Draft where
  registers : Registers := {}
  query : List Schema.Field := []
  mutation : List Schema.Field := []
  calls : List Call := []

namespace Draft

def record (draft : Draft) (sought : Sought) : Draft :=
  { draft with calls := draft.calls ++ [⟨sought, draft.registers⟩] }

/-- Registers a message that is looked up for the first time. Its fields have not been walked. -/
def enter (draft : Draft) (side : Side) (message : Message) : Draft :=
  { draft.record (.message side message) with
    registers := draft.registers.modify side (·.add (side.key message) (side.start message)) }

def enterEnum (draft : Draft) (enum : Enum) : Draft :=
  { draft.record (.enum enum) with
    registers.enums := draft.registers.enums.add (Naming.typeName enum.name) (enumType enum) }

def change (draft : Draft) (side : Side) (place : Nat) (update : side.Entry → side.Entry) : Draft :=
  { draft with registers := draft.registers.modify side (·.change place update) }

def addRoot (draft : Draft) (operation : Operation) (field : Schema.Field) : Draft :=
  match operation with
  | .query => { draft with query := draft.query ++ [field] }
  | .mutation => { draft with mutation := draft.mutation ++ [field] }

/-- The place of the enum type for an enum, which is registered if its name is new. -/
def resolveEnum (draft : Draft) (enum : Enum) : Draft × Nat :=
  match draft.registers.enums.find? (Naming.typeName enum.name) with
  | some place => (draft.record (.enum enum), place)
  | none => (draft.enterEnum enum, draft.registers.enums.entries.length)

/-- The name that the type of a field is built on, read from the definition that `seek` or the enums
lead to. -/
def fieldBase (side : Side) (pool : Pool) (seek : Draft → Message → Option (Draft × Nat))
    (draft : Draft) (field : Field) : Option (Draft × String) :=
  match pool.referred? field, fieldEnum? pool field with
  | some message, _ => do
    let (draft, place) ← seek draft message
    return (draft, side.nameOf (← (draft.registers.on side).entries[place]?))
  | none, some enum => do
    let (draft, place) := draft.resolveEnum enum
    return (draft, (← draft.registers.enums.entries[place]?).name)
  | none, none => some (draft, field.kind.scalarFor (some field.name))

/-- Adds a field to the definition at `place`. The second part of the state is the first key met. -/
def addField (side : Side) (pool : Pool) (seek : Draft → Message → Option (Draft × Nat)) (place : Nat) :
    Draft × Option Schema.Field → Option Field → Option (Draft × Option Schema.Field)
  | state, none => some state
  | (draft, key?), some field =>
    if pool.unresolved field then some (draft, key?)
    else do
      let (draft, base) ← fieldBase side pool seek draft field
      let shown := side.fieldOf base field
      return (draft.change side place (side.addField shown),
        key?.or (if shown.key then some shown else none))

/-- The place of the definition for a message, which is registered and then filled if its name is
new. There is none if more than `limit` messages would have to be walked one inside of another. -/
def resolve (side : Side) (pool : Pool) (limit : Nat) (draft : Draft) (message : Message) :
    Option (Draft × Nat) :=
  match (draft.registers.on side).find? (side.key message) with
  | some place => some (draft.record (.message side message), place)
  | none =>
    match limit with
    | 0 => none
    | limit + 1 => do
      let place := (draft.registers.on side).entries.length
      let (filled, key?) ← message.fields.foldlM (addField side pool (resolve side pool limit) place)
        (draft.enter side message, none)
      return (filled.change side place (side.finish message key?), place)

/-- The arguments of a method's root field, with the input type that it takes. -/
def arguments (pool : Pool) (limit : Nat) (draft : Draft) (method : Method) :
    Option (Draft × List String) :=
  match request? pool method with
  | none => some (draft, [])
  | some (_, request) => do
    let (draft, place) ← resolve .request pool limit draft request
    return (draft, [(← draft.registers.inputs.entries[place]?).name])

def addMethod (pool : Pool) (limit : Side → Nat) (draft : Draft) : Option Method → Option Draft
  | none => some draft
  | some method =>
    match output? pool method with
    | none => some draft
    | some (_, output) => do
      let (draft, place) ← resolve .output pool (limit .output) draft output
      let type ← draft.registers.types.entries[place]?
      let (draft, arguments) ← arguments pool (limit .request) draft method
      return draft.addRoot (classify method.name)
        { name := Naming.lowerFirst method.name
          type := type.name
          comment := Comment.clean method.comment
          arguments := arguments }

/-- Drafts the methods of a service in their order. `limit` bounds, on each side, how many messages
are walked one inside of another. -/
def run (pool : Pool) (limit : Side → Nat) (methods : List (Option Method)) : Option Draft :=
  methods.foldlM (addMethod pool limit) {}

/-- The schema that a draft has come to. -/
def schema (draft : Draft) (service : Service) : Schema :=
  { emptySchema service with
    query := draft.query
    mutation := draft.mutation
    types := draft.registers.types.entries
    inputs := draft.registers.inputs.entries
    enums := draft.registers.enums.entries }

end Draft

end Subgraph.Build
