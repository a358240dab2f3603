import Subgraph.Basic
import Subgraph.Descriptor
import Subgraph.Event
import Subgraph.Proto.File

namespace Subgraph.Link

open Proto Descriptor

/-- A message or enum with its full name and the path of its place in the source. -/
structure Declared (α : Type) where
  path : List Int
  fullName : String
  proto : α

/-- The name of a declaration inside of a package or message. -/
def qualify (scope name : String) : String :=
  if scope.isEmpty then name else scope ++ "." ++ name

mutual

/-- A message and the messages inside of it, outer ones first. -/
def declaredIn (scope : String) (path : List Int) : MessageProto → List (Declared MessageProto)
  | ⟨name, fields, nested, enums, options⟩ =>
    ⟨path, qualify scope name, ⟨name, fields, nested, enums, options⟩⟩ ::
      declaredAmong (qualify scope name) (path ++ [3]) 0 nested

/-- Messages that stand side by side, the first of them at `position`. -/
def declaredAmong (scope : String) (path : List Int) (position : Nat) :
    List MessageProto → List (Declared MessageProto)
  | [] => []
  | message :: rest =>
    declaredIn scope (path ++ [(position : Int)]) message ++ declaredAmong scope path (position + 1) rest

end

/-- The messages of a file, at any depth. -/
def messagesOf (file : FileProto) : List (Declared MessageProto) :=
  declaredAmong file.package [4] 0 file.messages

def enumsAmong (scope : String) (path : List Int) (enums : List EnumProto) : List (Declared EnumProto) :=
  enums.zipIdx.map fun (enum, position) =>
    ⟨path ++ [(position : Int)], qualify scope enum.name, enum⟩

/-- The enums of a file: its own, then those inside of its messages. -/
def enumsOf (file : FileProto) : List (Declared EnumProto) :=
  enumsAmong file.package [5] file.enums ++
    (messagesOf file).flatMap fun message =>
      enumsAmong message.fullName (message.path ++ [4]) message.proto.enums

/-- Leading comments count before trailing ones. -/
def commentAt (location : Location) : String :=
  if location.leading.isEmpty then location.trailing else location.leading

/-- The last comment given for a path, or nothing. -/
def comment (file : FileProto) (path : List Int) : String :=
  let given := file.locations.filter fun location =>
    location.path == path && !(commentAt location).isEmpty
  (given.getLast?.map commentAt).getD ""

/-- Positions in the pool by full name with a leading dot, which is how references are written. -/
abbrev Index := Registry Nat

def indexOf (names : List String) : Index :=
  names.zipIdx.foldl (fun index (name, position) => Registry.put ("." ++ name) position index) []

structure Indexes where
  messages : Index
  enums : Index

def indexes (files : List FileProto) : Indexes where
  messages := indexOf ((files.flatMap messagesOf).map (·.fullName))
  enums := indexOf ((files.flatMap enumsOf).map (·.fullName))

/-- Whether a field tells an absent value from a default one. -/
def hasPresence (file : FileProto) (field : FieldProto) : Bool :=
  if field.label = .repeated then false
  else if field.proto3Optional || field.kind.isComposite || field.inOneof then true
  else if field.label = .required then false
  else !file.proto3

def linkField (index : Indexes) (file : FileProto) (path : List Int) (field : FieldProto) : Field where
  name := field.name
  number := field.number
  kind := field.kind
  repeated := field.label == .repeated
  presence := hasPresence file field
  message := if field.kind.isComposite then index.messages.get? field.typeName else none
  enum := if field.kind = .enum then index.enums.get? field.typeName else none
  options := field.options
  comment := comment file path

/-- The paths of the fields of a message. -/
def fieldPath (path : List Int) (position : Nat) : List Int :=
  path ++ [2, (position : Int)]

def linkMessage (index : Indexes) (file : FileProto) (message : Declared MessageProto) : Message where
  name := message.proto.name
  fullName := message.fullName
  fields := message.proto.fields.zipIdx.map fun (field, position) =>
    some (linkField index file (fieldPath message.path position) field)
  options := message.proto.options
  comment := comment file message.path

/-- References of a message's fields that lead nowhere. -/
def danglingFields (index : Indexes) (message : Declared MessageProto) : List Event :=
  message.proto.fields.filterMap fun field =>
    if field.kind.isComposite then
      if (index.messages.get? field.typeName).isSome then none
      else some (.messageUnresolved field.typeName message.fullName field.name)
    else if field.kind = .enum then
      if (index.enums.get? field.typeName).isSome then none
      else some (.enumUnresolved field.typeName message.fullName field.name)
    else none

def linkEnum (file : FileProto) (enum : Declared EnumProto) : Enum where
  name := enum.proto.name
  fullName := enum.fullName
  values := enum.proto.values.zipIdx.map fun (value, position) =>
    { name := value.name
      number := value.number
      comment := comment file (enum.path ++ [2, (position : Int)]) }
  comment := comment file enum.path

def linkMethod (index : Indexes) (file : FileProto) (path : List Int) (method : MethodProto) : Method where
  name := method.name
  input := index.messages.get? method.input
  output := index.messages.get? method.output
  comment := comment file path

def danglingMethod (index : Indexes) (method : MethodProto) : List Event :=
  (if (index.messages.get? method.input).isSome then []
   else [.inputUnresolved method.input method.name]) ++
    if (index.messages.get? method.output).isSome then []
    else [.outputUnresolved method.output method.name]

def linkService (index : Indexes) (file : FileProto) (position : Nat) (service : ServiceProto) : Service where
  name := service.name
  fullName := qualify file.package service.name
  methods := service.methods.zipIdx.map fun (method, place) =>
    some (linkMethod index file [6, (position : Int), 2, (place : Int)] method)
  comment := comment file [6, (position : Int)]
  source := file.name

def servicesOf (index : Indexes) (file : FileProto) : List Service :=
  file.services.zipIdx.map fun (service, position) => linkService index file position service

def poolOf (files : List FileProto) : Pool where
  messages := files.flatMap fun file => (messagesOf file).map (linkMessage (indexes files) file)
  enums := files.flatMap fun file => (enumsOf file).map (linkEnum file)

/-- Why files cannot be linked. -/
inductive Fault where
  | fileMissing (name : String)
  deriving DecidableEq, Repr

def Fault.message : Fault → String
  | fileMissing name => s!"File to generate '{name}' not found in descriptor set"

/-- Linked files: the pool, where names lead, and the services to generate. -/
structure Linked where
  pool : Pool
  index : Indexes
  services : List Service
  selected : List String

/-- The first of some names that no file has. -/
def missing? (files : List FileProto) (names : List String) : Option String :=
  names.find? (!(files.map (·.name)).contains ·)

/-- Links files. All declarations are indexed before any is referred to, and of those that share a full
name the last one is found. `selection` names the files whose services are wanted; without one all are. -/
def link (files : List FileProto) (selection : Option (List String)) : Logged (Except Fault Linked) :=
  let index := indexes files
  let dangling := files.flatMap fun file => (messagesOf file).flatMap (danglingFields index)
  match missing? files (selection.getD []) with
  | some missing => ⟨.error (.fileMissing missing), dangling⟩
  | none =>
    let selected := selection.getD (files.map (·.name))
    let chosen := files.filter fun file => selected.contains file.name
    { value := .ok
        { pool := poolOf files
          index := index
          services := chosen.flatMap (servicesOf index)
          selected := selected }
      events := dangling ++ chosen.flatMap fun file =>
        file.services.flatMap fun service => service.methods.flatMap (danglingMethod index) }

end Subgraph.Link
