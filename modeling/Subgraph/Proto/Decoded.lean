import Subgraph.Proto.MessageType
import Subgraph.Wire.Token

namespace Subgraph.Proto

open Wire (Payload)

/-- Why bytes are not a message. -/
inductive Fault where
  | corrupt
  | tooDeep
  deriving DecidableEq, Repr

def Fault.message (type : MessageType) (fault : Fault) : String :=
  let reason :=
    match fault with
    | corrupt => "Wire format was corrupt"
    | tooDeep => "Exceeded upb_DecodeOptions_MaxDepth"
  s!"Error parsing message with type '{type.fullName}': {reason}"

/-- One entry of a decoded message. Numbers that the message does not know, and known numbers with
a payload of another form, stay as they were. -/
inductive Entry where
  | integer (number : Nat) (value : Nat)
  | text (number : Nat) (content : List UInt8)
  | part (number : Nat) (entries : List Entry)
  | unknown (field : Wire.Field)

/-- Messages and groups may be nested this deep. -/
def maxDepth : Nat := 100

/-- A closed choice counts the low 32 bits. A number out of its bounds is kept as unknown. -/
def chosen (number first last value : Nat) : Entry :=
  let low := value % Nat.pow 2 32
  if first ≤ low ∧ low ≤ last then .integer number low else .unknown ⟨number, .varint low⟩

/-- The entries that one field of a message of some type makes, where `part` reads the content of a
part. -/
def readEntry (part : MessageType → List UInt8 → Except Fault (List Entry)) (type : MessageType)
    (field : Wire.Field) : Except Fault (List Entry) :=
  match type.slot? field.number, field.payload with
  | some .integer, .varint n | some .integers, .varint n => .ok [.integer field.number n]
  | some (.choice first last), .varint n | some (.choices first last), .varint n =>
    .ok [chosen field.number first last n]
  | some .integers, .bytes content =>
    match Wire.packed content with
    | some numbers => .ok (numbers.map (.integer field.number))
    | none => .error .corrupt
  | some (.choices first last), .bytes content =>
    match Wire.packed content with
    | some numbers => .ok (numbers.map (chosen field.number first last))
    | none => .error .corrupt
  | some .double, .fixed64 content => .ok [.text field.number content]
  | some .text, .bytes content => .ok [.text field.number content]
  | some (.part inner), .bytes content => (part inner content).map fun entries => [.part field.number entries]
  | _, _ => .ok [.unknown field]

/-- Reads a message in which parts and groups may be nested `depth` deep. Of several faults the one
that comes first on the wire counts. -/
def decodeAt : (depth : Nat) → MessageType → List UInt8 → Except Fault (List Entry)
  | depth, type, bytes => do
    let content := Wire.content depth bytes
    let entries ← content.fields.mapM (readEntry (fun inner bytes =>
      match depth with
      | 0 => .error .tooDeep
      | depth + 1 => decodeAt depth inner bytes) type)
    if content.intact then return entries.flatten else throw .corrupt

def decode (type : MessageType) (bytes : List UInt8) : Except Fault (List Entry) :=
  decodeAt maxDepth type bytes

/-- The unknown fields of a message in wire order. -/
def unknownFields (entries : List Entry) : List Wire.Field :=
  entries.filterMap fun
    | .unknown field => some field
    | _ => none

end Subgraph.Proto
