import Subgraph.Proto.Decoded
import Subgraph.Text.Utf8

namespace Subgraph

/-- The options that a descriptor carries and that its own schema does not know, in wire order. -/
structure OptionSet where
  fields : List Wire.Field := []
  deriving DecidableEq, Repr

namespace OptionSet

/-- Why an option that is present has no readable value. -/
inductive Cause where
  | notVarint (wireType : Nat)
  | notText (wireType : Nat)
  | notUtf8 (fault : Utf8.Fault)
  deriving DecidableEq, Repr

def Cause.message : Cause → String
  | notVarint wireType => s!"expected varint, got wire type {wireType}"
  | notText wireType => s!"expected string, got wire type {wireType}"
  | notUtf8 fault => s!"invalid utf-8: {fault.message}"

/-- The report of an option that cannot be read, with its number where one is known. -/
def unreadable (number : Option Int) (detail : String) : String :=
  match number with
  | some n => s!"Unreadable option {n}: {detail}"
  | none => s!"Unreadable option: {detail}"

structure Fault where
  number : Nat
  cause : Cause
  deriving DecidableEq, Repr

def Fault.message (fault : Fault) : String :=
  unreadable (some fault.number) fault.cause.message

def ofEntries (entries : List Proto.Entry) : OptionSet :=
  ⟨Proto.unknownFields entries⟩

/-- Reads the options of a field or of a message. -/
def decode (type : Proto.MessageType) (bytes : List UInt8) : Except Proto.Fault OptionSet :=
  (Proto.decode type bytes).map ofEntries

/-- The last payload given for a number, which is the one that counts. -/
def last? (options : OptionSet) (number : Nat) : Option Wire.Payload :=
  (options.fields.reverse.find? (·.number == number)).map (·.payload)

def has (options : OptionSet) (number : Nat) : Bool :=
  (options.last? number).isSome

/-- A truth value: any number but zero is true. -/
def bool? (options : OptionSet) (number : Nat) : Except Fault (Option Bool) :=
  match options.last? number with
  | none => .ok none
  | some (.varint value) => .ok (some (value != 0))
  | some payload => .error ⟨number, .notVarint payload.wireType⟩

def text? (options : OptionSet) (number : Nat) : Except Fault (Option String) :=
  match options.last? number with
  | none => .ok none
  | some (.bytes content) =>
    match Utf8.decode content with
    | .ok text => .ok (some text)
    | .error fault => .error ⟨number, .notUtf8 fault⟩
  | some payload => .error ⟨number, .notText payload.wireType⟩

/-- The numbers that occur, in increasing order. -/
def numbers (options : OptionSet) : List Nat :=
  (options.fields.map (·.number)).eraseDups.mergeSort

/-- The numbers in brackets, for reports. -/
def summary (options : OptionSet) : String :=
  "OptionSet([" ++ ", ".intercalate (options.numbers.map toString) ++ "])"

/-- On messages: the message is an entity. -/
def entityOption : Nat := 50001

/-- On fields: the field is a key. -/
def keyOption : Nat := 50001

/-- On fields: the field belongs to another subgraph. -/
def externalOption : Nat := 50002

/-- On fields: the selection that the field requires. -/
def requiresOption : Nat := 50003

/-- On fields: the fields that the field is computed from. -/
def computedFromOption : Nat := 50004

end OptionSet

end Subgraph
