import Subgraph.Proofs.Link.References

namespace Subgraph.Link

open Proto Descriptor

/-- Where the places of messages and enums go. -/
structure Relocation where
  messages : Nat → Nat
  enums : Nat → Nat

namespace Relocation

variable (relocation : Relocation)

def field (field : Field) : Field :=
  { field with
    message := field.message.map relocation.messages
    enum := field.enum.map relocation.enums }

def message (message : Message) : Message :=
  { message with fields := message.fields.map (Option.map relocation.field) }

def method (method : Method) : Method :=
  { method with
    input := method.input.map relocation.messages
    output := method.output.map relocation.messages }

def service (service : Service) : Service :=
  { service with methods := service.methods.map (Option.map relocation.method) }

/-- Every key keeps what it leads to. -/
structure Follows (first second : Indexes) : Prop where
  messages : ∀ key, second.messages.get? key = (first.messages.get? key).map relocation.messages
  enums : ∀ key, second.enums.get? key = (first.enums.get? key).map relocation.enums

section Follows

variable {relocation} {first second : Indexes} (follows : relocation.Follows first second)

include follows

theorem Follows.linkField (file : FileProto) (path : List Int) (proto : FieldProto) :
    Link.linkField second file path proto = relocation.field (Link.linkField first file path proto) := by
  have message : (if proto.kind.isComposite then second.messages.get? proto.typeName else none) =
      (if proto.kind.isComposite then first.messages.get? proto.typeName else none).map
        relocation.messages := by
    split
    · exact follows.messages _
    · rfl
  have enum : (if proto.kind = .enum then second.enums.get? proto.typeName else none) =
      (if proto.kind = .enum then first.enums.get? proto.typeName else none).map relocation.enums := by
    split
    · exact follows.enums _
    · rfl
  rw [Link.linkField, message, enum]
  rfl

theorem Follows.linkMessage (file : FileProto) (declared : Declared MessageProto) :
    Link.linkMessage second file declared = relocation.message (Link.linkMessage first file declared) := by
  simp only [Link.linkMessage, Relocation.message, List.map_map, follows.linkField]
  rfl

theorem Follows.linkMethod (file : FileProto) (path : List Int) (proto : MethodProto) :
    Link.linkMethod second file path proto = relocation.method (Link.linkMethod first file path proto) := by
  rw [Link.linkMethod, follows.messages, follows.messages]
  rfl

theorem Follows.servicesOf (file : FileProto) :
    Link.servicesOf second file = (Link.servicesOf first file).map relocation.service := by
  rw [Link.servicesOf, Link.servicesOf, List.map_map]
  refine List.map_congr_left fun entry _ => ?_
  simp only [Link.linkService, Relocation.service, Function.comp, List.map_map, follows.linkMethod]
  rfl

end Follows

end Relocation

/-- The same messages, enums and services, with the same links between them, but for their places. -/
def SameLinks (first second : Linked) : Prop :=
  ∃ relocation : Relocation, relocation.Follows first.index second.index ∧
    (∀ key, second.message? key = (first.message? key).map relocation.message) ∧
    (∀ key, second.enum? key = first.enum? key) ∧
    second.services.Perm (first.services.map relocation.service)

section Order

variable {files reordered : List FileProto} {selection : Option (List String)}

theorem distinctNames_perm {α : Type} {At : FileProto → List Int → List String → α → Prop}
    {declared : FileProto → List (Declared α)} (lists : Lists At declared) (perm : reordered.Perm files)
    (distinct : DistinctNames At files) : DistinctNames At reordered := by
  rw [distinctNames_iff lists] at distinct ⊢
  exact ((perm.flatMap_right declared).map _).nodup_iff.mpr distinct

/-- Names that change their places are found at the new ones. -/
theorem exists_move {names moved : List String} (distinct : names.Nodup) (perm : moved.Perm names) :
    ∃ move : Nat → Nat, ∀ key, (indexOf moved).get? key = ((indexOf names).get? key).map move := by
  have apart : moved.Nodup := perm.nodup_iff.mpr distinct
  refine ⟨fun place => ((names[place]?).bind fun name => (indexOf moved).get? ("." ++ name)).getD place,
    fun key => ?_⟩
  cases found : (indexOf names).get? key with
  | none =>
    rw [Registry.get?_eq_none, names_indexOf distinct, ← (perm.map _).mem_iff] at found
    rw [Option.map_none, Registry.get?_eq_none, names_indexOf apart]
    exact found
  | some place =>
    obtain ⟨name, stands, rfl⟩ := Option.map_eq_some_iff.mp ((get?_indexOf distinct).mp found)
    obtain ⟨other, moved_to⟩ := List.mem_iff_getElem?.mp (perm.mem_iff.mpr (List.mem_of_getElem? stands))
    have leads : (indexOf moved).get? ("." ++ name) = some other := by
      rw [get?_indexOf apart, moved_to]
      rfl
    simp [stands, leads]

theorem exists_relocation (messages : DistinctNames MessageAt files) (enums : DistinctNames EnumAt files)
    (perm : reordered.Perm files) :
    ∃ relocation : Relocation, relocation.Follows (indexes files) (indexes reordered) := by
  obtain ⟨onMessages, message_keys⟩ := exists_move ((distinctNames_iff lists_messages).mp messages)
    ((perm.flatMap_right messagesOf).map _)
  obtain ⟨onEnums, enum_keys⟩ := exists_move ((distinctNames_iff lists_enums).mp enums)
    ((perm.flatMap_right enumsOf).map _)
  exact ⟨⟨onMessages, onEnums⟩, message_keys, enum_keys⟩

theorem located_perm {α : Type} (declared : FileProto → List (Declared α)) (perm : reordered.Perm files) :
    (located declared reordered).Perm (located declared files) :=
  perm.flatMap_right _

theorem sameLinks_of_perm (messages : DistinctNames MessageAt files) (enums : DistinctNames EnumAt files)
    (perm : reordered.Perm files) :
    SameLinks (linkedFiles files selection) (linkedFiles reordered selection) := by
  obtain ⟨relocation, follows⟩ := exists_relocation messages enums perm
  refine ⟨relocation, follows, fun key => ?_, fun key => ?_, ?_⟩
  · ext message
    rw [message?_linkedFiles (distinctNames_perm lists_messages perm messages), Option.map_eq_some_iff]
    simp only [message?_linkedFiles messages, (located_perm messagesOf perm).mem_iff, follows.linkMessage]
    constructor
    · rintro ⟨site, member, named, same⟩
      exact ⟨_, ⟨site, member, named, rfl⟩, same⟩
    · rintro ⟨_, ⟨site, member, named, rfl⟩, same⟩
      exact ⟨site, member, named, same⟩
  · ext enum
    rw [enum?_linkedFiles (distinctNames_perm lists_enums perm enums), enum?_linkedFiles enums]
    simp only [(located_perm enumsOf perm).mem_iff]
  · have services : (linkedFiles files selection).services.map relocation.service =
        (files.filter fun file => selection.all (·.contains file.name)).flatMap
          (servicesOf (indexes reordered)) := by
      rw [linkedFiles, List.map_flatMap]
      exact List.flatMap_congr fun file _ => (follows.servicesOf file).symm
    rw [services]
    exact (perm.filter _).flatMap_right _

end Order

/-- Files in which full names are not used twice are linked, if those selected are there. Each
declaration is found under its full name and each reference leads to what it names, whatever the order
of the files. -/
theorem references_resolved (files : List FileProto) (selection : Option (List String))
    (messages : DistinctNames MessageAt files) (enums : DistinctNames EnumAt files)
    (present : ∀ name ∈ selection.getD [], ∃ file ∈ files, file.name = name) :
    ∃ linked, (link files selection).value = .ok linked ∧ linked.Resolves files selection ∧
      ∀ reordered, reordered.Perm files →
        ∃ other, (link reordered selection).value = .ok other ∧ SameLinks linked other := by
  refine ⟨_, link_value present, resolves_linkedFiles messages enums, fun reordered perm => ?_⟩
  have present_too : ∀ name ∈ selection.getD [], ∃ file ∈ reordered, file.name = name := by
    simpa only [perm.mem_iff] using present
  exact ⟨_, link_value present_too, sameLinks_of_perm messages enums perm⟩

/-- Two files that refer to each other, the first of them to what stands in a message of the second. -/
def tradeFiles : List FileProto :=
  [{ name := "trade.proto"
     package := "trade"
     messages :=
      [{ name := "Order"
         fields :=
          [{ name := "buyer", number := 1, kind := .message, typeName := ".Customer" },
           { name := "line", number := 2, label := .repeated, kind := .message, typeName := ".trade.Order.Line" },
           { name := "rank", number := 3, kind := .enum, typeName := ".Customer.Rank" },
           { name := "lost", number := 4, kind := .message, typeName := ".trade.Line" }]
         nested :=
          [{ name := "Line", fields := [{ name := "whole", kind := .group, typeName := ".trade.Order" }] }] }]
     services :=
      [{ name := "Desk"
         methods := [{ name := "GetOrder", input := ".Customer", output := ".trade.Order" }] }] },
   { name := "people.proto"
     messages :=
      [{ name := "Customer"
         fields := [{ name := "last", number := 1, kind := .message, typeName := ".trade.Order" }]
         enums := [{ name := "Rank", values := [{ name := "GOLD" }] }] }] }]

theorem references_resolved_trade :
    DistinctNames MessageAt tradeFiles ∧ DistinctNames EnumAt tradeFiles ∧
      ∃ linked, (link tradeFiles (some ["trade.proto"])).value = .ok linked ∧
        linked.Resolves tradeFiles (some ["trade.proto"]) ∧
        ∃ other, (link tradeFiles.reverse (some ["trade.proto"])).value = .ok other ∧
          SameLinks linked other := by
  have messages : DistinctNames MessageAt tradeFiles := (distinctNames_iff lists_messages).mpr (by decide)
  have enums : DistinctNames EnumAt tradeFiles := (distinctNames_iff lists_enums).mpr (by decide)
  have present : ∀ name ∈ ["trade.proto"], ∃ file ∈ tradeFiles, file.name = name := by decide
  obtain ⟨linked, done, resolves, stable⟩ :=
    references_resolved tradeFiles (some ["trade.proto"]) messages enums present
  exact ⟨messages, enums, linked, done, resolves, stable _ tradeFiles.reverse_perm⟩

end Subgraph.Link
