import Subgraph.Kind
import Subgraph.Options

namespace Subgraph.Proto

inductive Label where
  | optional
  | required
  | repeated
  deriving DecidableEq, Repr

structure FieldProto where
  name : String := ""
  number : Int := 0
  label : Label := .optional
  kind : Kind := .double
  typeName : String := ""
  inOneof : Bool := false
  proto3Optional : Bool := false
  options : OptionSet := {}
  deriving DecidableEq, Repr

structure EnumValueProto where
  name : String := ""
  number : Int := 0
  deriving DecidableEq, Repr

structure EnumProto where
  name : String := ""
  values : List EnumValueProto := []
  deriving DecidableEq, Repr

/-- A message with the messages and enums declared inside of it. -/
structure MessageProto where
  name : String := ""
  fields : List FieldProto := []
  nested : List MessageProto := []
  enums : List EnumProto := []
  options : OptionSet := {}
  deriving Repr

structure MethodProto where
  name : String := ""
  input : String := ""
  output : String := ""
  deriving DecidableEq, Repr

structure ServiceProto where
  name : String := ""
  methods : List MethodProto := []
  deriving DecidableEq, Repr

/-- The comments at a place of the source. The path leads from the file to the element that they are
about, by field numbers and positions in turn. -/
structure Location where
  path : List Int := []
  leading : String := ""
  trailing : String := ""
  deriving DecidableEq, Repr

structure FileProto where
  name : String := ""
  package : String := ""
  proto3 : Bool := false
  messages : List MessageProto := []
  enums : List EnumProto := []
  services : List ServiceProto := []
  locations : List Location := []
  deriving Repr

/-- What a code generation request asks for. -/
structure Request where
  filesToGenerate : List String := []
  parameter : String := ""
  files : List FileProto := []
  deriving Repr

def textsAt (entries : List Entry) (number : Nat) : List String :=
  entries.filterMap fun
    | .text n content => if n = number then (Utf8.decode content).toOption else none
    | _ => none

/-- The last text of a number, empty when there is none. -/
def textAt (entries : List Entry) (number : Nat) : String :=
  (textsAt entries number).getLast?.getD ""

def integersAt (entries : List Entry) (number : Nat) : List Nat :=
  entries.filterMap fun
    | .integer n value => if n = number then some value else none
    | _ => none

def integerAt? (entries : List Entry) (number : Nat) : Option Nat :=
  (integersAt entries number).getLast?

def partsAt (entries : List Entry) (number : Nat) : List (List Entry) :=
  entries.filterMap fun
    | .part n inner => if n = number then some inner else none
    | _ => none

/-- A part that occurs once; several occurrences are merged. -/
def partAt (entries : List Entry) (number : Nat) : List Entry :=
  (partsAt entries number).flatten

/-- The low 32 bits as a signed number. -/
def int32 (value : Nat) : Int :=
  Int.bmod value (Nat.pow 2 32)

def int32At (entries : List Entry) (number : Nat) : Int :=
  int32 ((integerAt? entries number).getD 0)

def Label.ofNumber : Nat → Label
  | 2 => .required
  | 3 => .repeated
  | _ => .optional

def FieldProto.ofEntries (entries : List Entry) : FieldProto where
  name := textAt entries 1
  number := int32At entries 3
  label := Label.ofNumber ((integerAt? entries 4).getD 1)
  kind := Kind.ofNumber ((integerAt? entries 5).getD 1)
  typeName := textAt entries 6
  inOneof := (integerAt? entries 9).isSome
  proto3Optional := (integerAt? entries 17).getD 0 != 0
  options := OptionSet.ofEntries (partAt entries 8)

def EnumValueProto.ofEntries (entries : List Entry) : EnumValueProto where
  name := textAt entries 1
  number := int32At entries 2

def EnumProto.ofEntries (entries : List Entry) : EnumProto where
  name := textAt entries 1
  values := (partsAt entries 2).map EnumValueProto.ofEntries

theorem sizeOf_part_lt {entries inner : List Entry} {number : Nat} (member : .part number inner ∈ entries) :
    sizeOf inner < sizeOf entries := by
  have smaller := List.sizeOf_lt_of_mem member
  rw [Entry.part.sizeOf_spec] at smaller
  omega

/-- The parts of a number, each smaller than what it is part of. -/
def partsBelow (entries : List Entry) (number : Nat) :
    List { inner : List Entry // sizeOf inner < sizeOf entries } :=
  entries.attach.filterMap fun
    | ⟨.part n inner, member⟩ => if n = number then some ⟨inner, sizeOf_part_lt member⟩ else none
    | _ => none

def MessageProto.ofEntries (entries : List Entry) : MessageProto :=
  { name := textAt entries 1
    fields := (partsAt entries 2).map FieldProto.ofEntries
    nested := (partsBelow entries 3).map fun part => MessageProto.ofEntries part.val
    enums := (partsAt entries 4).map EnumProto.ofEntries
    options := OptionSet.ofEntries (partAt entries 7) }
termination_by sizeOf entries
decreasing_by exact part.property

def MethodProto.ofEntries (entries : List Entry) : MethodProto where
  name := textAt entries 1
  input := textAt entries 2
  output := textAt entries 3

def ServiceProto.ofEntries (entries : List Entry) : ServiceProto where
  name := textAt entries 1
  methods := (partsAt entries 2).map MethodProto.ofEntries

def Location.ofEntries (entries : List Entry) : Location where
  path := (integersAt entries 1).map int32
  leading := textAt entries 3
  trailing := textAt entries 4

def FileProto.ofEntries (entries : List Entry) : FileProto where
  name := textAt entries 1
  package := textAt entries 2
  proto3 := textAt entries 12 == "proto3"
  messages := (partsAt entries 4).map MessageProto.ofEntries
  enums := (partsAt entries 5).map EnumProto.ofEntries
  services := (partsAt entries 6).map ServiceProto.ofEntries
  locations := (partsAt (partAt entries 9) 1).map Location.ofEntries

def Request.ofEntries (entries : List Entry) : Request where
  filesToGenerate := textsAt entries 1
  parameter := textAt entries 2
  files := (partsAt entries 15).map FileProto.ofEntries

def Request.decode (bytes : List UInt8) : Except Fault Request :=
  (Proto.decode .request bytes).map Request.ofEntries

/-- The files of a serialized descriptor set. -/
def decodeFileSet (bytes : List UInt8) : Except Fault (List FileProto) :=
  (Proto.decode .fileSet bytes).map fun entries => (partsAt entries 1).map FileProto.ofEntries

end Subgraph.Proto
