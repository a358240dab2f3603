namespace Subgraph.Proto

/-- The messages that describe proto files, and those of a code generation request. -/
inductive MessageType where
  | fileSet | request | version
  | file | message | field | oneof | enum | enumValue | service | method
  | extensionRange | declaration | span
  | sourceInfo | location
  | fileOptions | messageOptions | fieldOptions | oneofOptions | enumOptions | enumValueOptions
  | serviceOptions | methodOptions | extensionRangeOptions
  | features | featureSupport | editionDefault | uninterpreted | namePart
  deriving DecidableEq, Repr

/-- What a known field number holds. A closed choice takes the numbers between its bounds only, and
a plural slot takes packed sequences too. -/
inductive Slot where
  | integer
  | integers
  | choice (first last : Nat)
  | choices (first last : Nat)
  | double
  | text
  | part (type : MessageType)
  deriving DecidableEq, Repr

namespace MessageType

/-- The name within the package of the descriptor messages. -/
def localName : MessageType → String
  | fileSet => "FileDescriptorSet"
  | request => "compiler.CodeGeneratorRequest"
  | version => "compiler.Version"
  | file => "FileDescriptorProto"
  | message => "DescriptorProto"
  | field => "FieldDescriptorProto"
  | oneof => "OneofDescriptorProto"
  | enum => "EnumDescriptorProto"
  | enumValue => "EnumValueDescriptorProto"
  | service => "ServiceDescriptorProto"
  | method => "MethodDescriptorProto"
  | extensionRange => "DescriptorProto.ExtensionRange"
  | declaration => "ExtensionRangeOptions.Declaration"
  | span => "DescriptorProto.ReservedRange"
  | sourceInfo => "SourceCodeInfo"
  | location => "SourceCodeInfo.Location"
  | fileOptions => "FileOptions"
  | messageOptions => "MessageOptions"
  | fieldOptions => "FieldOptions"
  | oneofOptions => "OneofOptions"
  | enumOptions => "EnumOptions"
  | enumValueOptions => "EnumValueOptions"
  | serviceOptions => "ServiceOptions"
  | methodOptions => "MethodOptions"
  | extensionRangeOptions => "ExtensionRangeOptions"
  | features => "FeatureSet"
  | featureSupport => "FieldOptions.FeatureSupport"
  | editionDefault => "FieldOptions.EditionDefault"
  | uninterpreted => "UninterpretedOption"
  | namePart => "UninterpretedOption.NamePart"

def fullName (type : MessageType) : String :=
  "google.protobuf." ++ type.localName

/-- What a field number holds in a message; nothing for a number that the message does not know. -/
def slot? : MessageType → Nat → Option Slot
  | fileSet, 1 => some (.part file)
  | request, 1 | request, 2 => some .text
  | request, 3 => some (.part version)
  | request, 15 | request, 17 => some (.part file)
  | version, 1 | version, 2 | version, 3 => some .integer
  | version, 4 => some .text
  | file, 1 | file, 2 | file, 3 | file, 12 | file, 15 => some .text
  | file, 4 => some (.part message)
  | file, 5 => some (.part enum)
  | file, 6 => some (.part service)
  | file, 7 => some (.part field)
  | file, 8 => some (.part fileOptions)
  | file, 9 => some (.part sourceInfo)
  | file, 10 | file, 11 => some .integers
  | file, 14 => some .integer
  | message, 1 | message, 10 => some .text
  | message, 2 | message, 6 => some (.part field)
  | message, 3 => some (.part message)
  | message, 4 => some (.part enum)
  | message, 5 => some (.part extensionRange)
  | message, 7 => some (.part messageOptions)
  | message, 8 => some (.part oneof)
  | message, 9 => some (.part span)
  | message, 11 => some .integer
  | field, 1 | field, 2 | field, 6 | field, 7 | field, 10 => some .text
  | field, 3 | field, 9 | field, 17 => some .integer
  | field, 4 => some (.choice 1 3)
  | field, 5 => some (.choice 1 18)
  | field, 8 => some (.part fieldOptions)
  | oneof, 1 => some .text
  | oneof, 2 => some (.part oneofOptions)
  | enum, 1 | enum, 5 => some .text
  | enum, 2 => some (.part enumValue)
  | enum, 3 => some (.part enumOptions)
  | enum, 4 => some (.part span)
  | enum, 6 => some .integer
  | enumValue, 1 => some .text
  | enumValue, 2 => some .integer
  | enumValue, 3 => some (.part enumValueOptions)
  | service, 1 => some .text
  | service, 2 => some (.part method)
  | service, 3 => some (.part serviceOptions)
  | method, 1 | method, 2 | method, 3 => some .text
  | method, 4 => some (.part methodOptions)
  | method, 5 | method, 6 => some .integer
  | extensionRange, 1 | extensionRange, 2 => some .integer
  | extensionRange, 3 => some (.part extensionRangeOptions)
  | declaration, 1 | declaration, 5 | declaration, 6 => some .integer
  | declaration, 2 | declaration, 3 => some .text
  | span, 1 | span, 2 => some .integer
  | sourceInfo, 1 => some (.part location)
  | location, 1 | location, 2 => some .integers
  | location, 3 | location, 4 | location, 6 => some .text
  | fileOptions, 50 => some (.part features)
  | fileOptions, n =>
    if n ∈ [1, 8, 11, 36, 37, 39, 40, 41, 44, 45] then some .text
    else if n ∈ [9, 10, 16, 17, 18, 20, 23, 27, 31] then some .integer
    else if n = 999 then some (.part uninterpreted)
    else none
  | messageOptions, 1 | messageOptions, 2 | messageOptions, 3 | messageOptions, 7
  | messageOptions, 11 => some .integer
  | messageOptions, 12 => some (.part features)
  | fieldOptions, 1 | fieldOptions, 6 | fieldOptions, 17 => some (.choice 0 2)
  | fieldOptions, 19 => some (.choices 0 9)
  | fieldOptions, 2 | fieldOptions, 3 | fieldOptions, 5 | fieldOptions, 10 | fieldOptions, 15
  | fieldOptions, 16 => some .integer
  | fieldOptions, 20 => some (.part editionDefault)
  | fieldOptions, 21 => some (.part features)
  | fieldOptions, 22 => some (.part featureSupport)
  | oneofOptions, 1 => some (.part features)
  | enumOptions, 2 | enumOptions, 3 | enumOptions, 6 => some .integer
  | enumOptions, 7 => some (.part features)
  | enumValueOptions, 1 | enumValueOptions, 3 => some .integer
  | enumValueOptions, 2 => some (.part features)
  | enumValueOptions, 4 => some (.part featureSupport)
  | serviceOptions, 33 => some .integer
  | serviceOptions, 34 => some (.part features)
  | methodOptions, 33 | methodOptions, 34 => some .integer
  | methodOptions, 35 => some (.part features)
  | extensionRangeOptions, 2 => some (.part declaration)
  | extensionRangeOptions, 3 => some .integer
  | extensionRangeOptions, 50 => some (.part features)
  | messageOptions, 999 | fieldOptions, 999 | oneofOptions, 999 | enumOptions, 999
  | enumValueOptions, 999 | serviceOptions, 999 | methodOptions, 999
  | extensionRangeOptions, 999 => some (.part uninterpreted)
  | features, 1 | features, 2 | features, 3 | features, 4 | features, 5 | features, 6 | features, 7
  | features, 8 => some .integer
  | featureSupport, 1 | featureSupport, 2 | featureSupport, 4 => some .integer
  | featureSupport, 3 => some .text
  | editionDefault, 2 => some .text
  | editionDefault, 3 => some .integer
  | uninterpreted, 2 => some (.part namePart)
  | uninterpreted, 3 | uninterpreted, 7 | uninterpreted, 8 => some .text
  | uninterpreted, 4 | uninterpreted, 5 => some .integer
  | uninterpreted, 6 => some .double
  | namePart, 1 => some .text
  | namePart, 2 => some .integer
  | _, _ => none

end MessageType

end Subgraph.Proto
