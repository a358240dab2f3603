import Subgraph.Proofs.Entities
import Subgraph.Proofs.TypeExpr
import Subgraph.Validation

namespace Subgraph

namespace Validation

open Schema

/-- The type is well formed over a scalar or one of the names. -/
def Resolves (known : List String) (type : String) : Prop :=
  TypeExpr.check type = none ∧
    (TypeExpr.isScalar (TypeExpr.baseName type) = true ∨ TypeExpr.baseName type ∈ known)

/-- Every reference of a schema leads to a definition of the kind that may stand there. -/
structure ReferencesHold (schema : Schema) : Prop where
  roots : ∀ field ∈ schema.query ++ schema.mutation, Resolves (schema.types.map (·.name)) field.type
  arguments : ∀ field ∈ schema.query ++ schema.mutation, ∀ input ∈ field.arguments,
    input ∈ schema.inputs.map (·.name)
  objectFields : ∀ type ∈ schema.types, ∀ field ∈ type.fields,
    Resolves (schema.types.map (·.name) ++ schema.enums.map (·.name)) field.type
  keys : ∀ type ∈ schema.types, type.federated = true → ∃ field ∈ type.fields, field.name = type.keyField
  inputFields : ∀ type ∈ schema.inputs, ∀ field ∈ type.fields,
    Resolves (schema.inputs.map (·.name) ++ schema.enums.map (·.name)) field.type

theorem fieldIssues_eq_nil_iff {known : List String} {owner : String} {field : Field} :
    fieldIssues known owner field = [] ↔ Resolves known field.type := by
  unfold fieldIssues typeProblem? Resolves
  cases TypeExpr.check field.type with
  | some fault => simp
  | none =>
    by_cases found : TypeExpr.isScalar (TypeExpr.baseName field.type) = true ∨
        TypeExpr.baseName field.type ∈ known
    · simp [found]
    · simp [found]

theorem argumentIssues_eq_nil_iff {inputs : List String} {owner : String} {field : Field} :
    argumentIssues inputs owner field = [] ↔ ∀ input ∈ field.arguments, input ∈ inputs := by
  simp [argumentIssues, List.filter_eq_nil_iff]

theorem keyIssues_eq_nil_iff {type : ObjectType} :
    keyIssues type = [] ↔
      (type.federated = true → ∃ field ∈ type.fields, field.name = type.keyField) := by
  unfold keyIssues ObjectType.field?
  cases type.federated with
  | false => simp
  | true =>
    cases found : type.fields.find? (·.name == type.keyField) with
    | none => simpa using found
    | some field =>
      have member := List.mem_of_find?_eq_some found
      have same := List.find?_some found
      simpa using ⟨field, member, by simpa using same⟩

theorem rootIssues_eq_nil_iff {types inputs : List String} {root : ObjectType} :
    rootIssues types inputs root = [] ↔ ∀ field ∈ root.fields,
      Resolves types field.type ∧ ∀ input ∈ field.arguments, input ∈ inputs := by
  simp only [rootIssues, List.flatMap_eq_nil_iff, List.append_eq_nil_iff, fieldIssues_eq_nil_iff,
    argumentIssues_eq_nil_iff]

/-- Beyond names, exactly the references that lead nowhere are reported. -/
theorem validate_eq_nameIssues_iff {schema : Schema} :
    validate schema = nameIssues [] (entries schema) ↔ ReferencesHold schema := by
  simp only [validate, List.append_assoc, List.append_right_eq_self, List.append_eq_nil_iff,
    List.flatMap_eq_nil_iff, rootIssues_eq_nil_iff, fieldIssues_eq_nil_iff, keyIssues_eq_nil_iff,
    queryRoot, mutationRoot]
  constructor
  · rintro ⟨query, mutation, objects, inputs⟩
    refine ⟨?_, ?_, fun type member => (objects type member).1, fun type member => (objects type member).2,
      inputs⟩
    · intro field member
      exact (List.mem_append.mp member).elim (fun here => (query field here).1)
        fun here => (mutation field here).1
    · intro field member
      exact (List.mem_append.mp member).elim (fun here => (query field here).2)
        fun here => (mutation field here).2
  · intro hold
    refine ⟨fun field member => ?_, fun field member => ?_, fun type member => ?_, hold.inputFields⟩
    · exact ⟨hold.roots field (List.mem_append_left _ member),
        hold.arguments field (List.mem_append_left _ member)⟩
    · exact ⟨hold.roots field (List.mem_append_right _ member),
        hold.arguments field (List.mem_append_right _ member)⟩
    · exact ⟨hold.objectFields type member, hold.keys type member⟩

end Validation

namespace Naming

/-- The name has an ASCII letter or digit. -/
def HasAlphanum (name : String) : Prop :=
  ∃ c ∈ name.toList, c.isAlphanum = true

instance (name : String) : Decidable (HasAlphanum name) :=
  decidable_of_iff (name.toList.any Char.isAlphanum = true) List.any_eq_true

/-- The name can stand in a type expression. -/
def Usable (name : String) : Prop :=
  Words.IsName name.toList ∧ HasAlphanum name

theorem usable_typeName {name : String} (readable : HasAlphanum name) : Usable (typeName name) := by
  obtain ⟨c, member, alphanum⟩ := Words.typeName_alphanum readable
  rw [Usable, HasAlphanum, toList_typeName]
  exact ⟨Words.isName_typeName (List.ne_nil_of_mem member), c, member, alphanum⟩

/-- The ending of input names makes them usable, whatever is left of the message's name. -/
theorem usable_inputName (message : String) : Usable (inputName message) := by
  obtain ⟨base, chars⟩ := toList_inputName message
  rw [Usable, HasAlphanum, chars]
  refine ⟨?_, 'I', by simp, by decide⟩
  by_cases empty : Words.typeName base = []
  · rw [empty]
    decide
  · exact (Words.isName_typeName empty).append (List.all_eq_true.mp rfl)

theorem usable_of_isScalar {name : String} (scalar : TypeExpr.isScalar name = true) : Usable name := by
  have each : ∀ name ∈ TypeExpr.builtinScalars, Words.IsName name.toList ∧ HasAlphanum name := by
    decide +kernel
  exact each name (by simpa [TypeExpr.isScalar] using scalar)

end Naming

theorem Kind.isScalar_scalarFor (kind : Kind) (field : Option String) :
    TypeExpr.isScalar (kind.scalarFor field) = true := by
  unfold scalarFor
  split
  · decide
  · cases kind <;> decide

theorem Validation.resolves_decorate {known : List String} {base : String} (usable : Naming.Usable base)
    (found : TypeExpr.isScalar base = true ∨ base ∈ known) (repeated required : Bool) :
    Resolves known (TypeExpr.decorate base repeated required) := by
  obtain ⟨named, alphanum⟩ := usable
  rw [Resolves, TypeExpr.baseName_decorate named.2.2]
  exact ⟨TypeExpr.check_decorate named alphanum repeated required, found⟩

namespace Build

open Descriptor Validation

variable {pool : Pool}

/-- What a shown field refers to: the definition of a message, that of an enum, or a scalar. -/
theorem baseType_cases {field : Field} (kept : pool.unresolved field = false)
    (reference : Message → String) :
    (∃ held, pool.referred? field = some held ∧ baseType pool reference field = reference held) ∨
      (∃ enum, fieldEnum? pool field = some enum ∧
        baseType pool reference field = Naming.typeName enum.name) ∨
      TypeExpr.isScalar (baseType pool reference field) = true := by
  cases composite : field.kind.isComposite with
  | true =>
    obtain ⟨held, holds⟩ := Pool.referred?_of_kept kept composite
    have found : pool.message? field.message = some held := by
      simpa [Pool.referred?, composite] using holds
    exact .inl ⟨held, holds, by simp [baseType, composite, found]⟩
  | false =>
    right
    simp only [baseType, composite]
    split
    · rename_i enum kind found
      exact .inl ⟨enum, by simp [fieldEnum?, kind, found], rfl⟩
    · exact .inr (Kind.isScalar_scalarFor ..)

/-- A field of a registered message resolves: the walk has met what it refers to, even where the
definition under that name was made from another message. -/
theorem plainField_resolves {name : Message → String} {roots order : List Message}
    {enums : List String} (walk : Preorder pool.references name [] roots order)
    (registered : ∀ enum, EnumOf pool order enum → Naming.typeName enum.name ∈ enums)
    (usable : ∀ message, ReachableFrom pool.references roots message → Naming.Usable (name message))
    (usableEnum : ∀ enum, EnumOf pool order enum → Naming.Usable (Naming.typeName enum.name))
    {message : Message} (member : message ∈ order) {field : Field}
    (shown : field ∈ pool.keptFields message) :
    Resolves (order.map name ++ enums) (plainField pool name field).type := by
  have kept := (Pool.mem_keptFields.mp shown).2
  rcases baseType_cases kept name with ⟨held, holds, same⟩ | ⟨enum, refers, same⟩ | scalar
  · have edge := Pool.mem_references shown holds
    have met : name held ∈ order.map name :=
      (walk.next_covered member edge).resolve_right List.not_mem_nil
    refine resolves_decorate (same ▸ usable held ((walk.reachable member).step edge)) (.inr ?_) ..
    exact same ▸ List.mem_append_left _ met
  · have used : EnumOf pool order enum := ⟨message, member, field, shown, refers⟩
    refine resolves_decorate (same ▸ usableEnum enum used) (.inr ?_) ..
    exact same ▸ List.mem_append_right _ (registered enum used)
  · exact resolves_decorate (Naming.usable_of_isScalar scalar) (.inl scalar) ..

/-- The message can be reached from the output or the request of a method. -/
def Reached (pool : Pool) (service : Service) (message : Message) : Prop :=
  ReachableFrom pool.references (outputs pool service.methods ++ requests pool service.methods) message

/-- All messages and enums that a service can reach have a letter or digit in their names. -/
structure ReadableNames (pool : Pool) (service : Service) : Prop where
  messages : ∀ message, Reached pool service message → Naming.HasAlphanum message.name
  enums : ∀ message, Reached pool service message → ∀ field enum, some field ∈ message.fields →
    fieldEnum? pool field = some enum → Naming.HasAlphanum enum.name

theorem Reached.mem_messages {service : Service} {message : Message}
    (reached : Reached pool service message) :
    message ∈ pool.messages :=
  mem_messages_of_reachable (fun _ member => (List.mem_append.mp member).elim mem_messages_of_outputs
    mem_messages_of_requests) reached

/-- Readable names throughout the pool are enough. -/
theorem readableNames_of_pool (messages : ∀ message ∈ pool.messages, Naming.HasAlphanum message.name)
    (enums : ∀ enum ∈ pool.enums, Naming.HasAlphanum enum.name) (service : Service) :
    ReadableNames pool service := by
  refine ⟨fun message reached => messages message reached.mem_messages,
    fun _ _ field enum _ refers => ?_⟩
  obtain ⟨place, _, found⟩ := Option.bind_eq_some_iff.mp (fieldEnum?_eq_some.mp refers).2
  exact enums enum (List.mem_of_getElem? found)

theorem mem_outputs_of_mem_served {methods : List (Option Method)} {method : Method} {output : Message}
    (member : (method, output) ∈ served pool methods) : output ∈ outputs pool methods :=
  List.mem_map.mpr ⟨_, member, rfl⟩

theorem mem_requests_of_mem_served {methods : List (Option Method)} {method : Method}
    {output request : Message} {place : Nat} (member : (method, output) ∈ served pool methods)
    (taken : request? pool method = some (place, request)) : request ∈ requests pool methods :=
  List.mem_filterMap.mpr ⟨_, member, by simp [taken]⟩

/-- Root fields come from methods. -/
theorem mem_rootFields {service : Service} {field : Schema.Field}
    (member : field ∈ (build pool service).value.query ++ (build pool service).value.mutation) :
    ∃ method output, (method, output) ∈ served pool service.methods ∧
      field = rootField pool method output := by
  have origin (kind : Operation) (here : field ∈ rootFields (build pool service).value kind) :
      ∃ method output, (method, output) ∈ served pool service.methods ∧
        field = rootField pool method output := by
    rw [rootFields_build, roots] at here
    obtain ⟨⟨method, output⟩, listed, same⟩ := List.mem_map.mp here
    exact ⟨method, output, List.mem_of_mem_filter listed, same.symm⟩
  exact (List.mem_append.mp member).elim (origin .query) (origin .mutation)

theorem ReadableNames.usable_enum {service : Service} (readable : ReadableNames pool service)
    {messages : List Message} (reached : ∀ message ∈ messages, Reached pool service message)
    (enum : Enum) (used : EnumOf pool messages enum) : Naming.Usable (Naming.typeName enum.name) := by
  obtain ⟨owner, member, field, shown, refers⟩ := used
  exact Naming.usable_typeName (readable.enums owner (reached owner member) field enum
    (Pool.mem_keptFields.mp shown).1 refers)

section Registered

variable {service : Service} {types inputs : List Message} {enums : List Enum} {schema : Schema}

theorem Registered.types_reached
    (state : Registered pool (outputs pool service.methods) (requests pool service.methods) types inputs
      enums schema) (message : Message) (member : message ∈ types) : Reached pool service message :=
  (state.typeOrder.reachable member).mono (List.subset_append_left ..)

theorem Registered.inputs_reached
    (state : Registered pool (outputs pool service.methods) (requests pool service.methods) types inputs
      enums schema) (message : Message) (member : message ∈ inputs) : Reached pool service message :=
  (state.inputOrder.reachable member).mono (List.subset_append_right ..)

theorem Registered.objectField_resolves (readable : ReadableNames pool service)
    (state : Registered pool (outputs pool service.methods) (requests pool service.methods) types inputs
      enums schema)
    {message : Message} (member : message ∈ types) {field : Field}
    (shown : field ∈ pool.keptFields message) :
    Resolves (schema.types.map (·.name) ++ schema.enums.map (·.name))
      (plainField pool objectName field).type := by
  rw [state.types_eq, names_objectTypes]
  refine plainField_resolves state.typeOrder (fun enum used => ?_) (fun message reach => ?_)
    (readable.usable_enum state.types_reached) member shown
  · exact state.enumName_mem.mpr ⟨enum, used.mono (List.subset_append_left ..), rfl⟩
  · exact Naming.usable_typeName (readable.messages message (reach.mono (List.subset_append_left ..)))

theorem Registered.inputField_resolves (readable : ReadableNames pool service)
    (state : Registered pool (outputs pool service.methods) (requests pool service.methods) types inputs
      enums schema)
    {message : Message} (member : message ∈ inputs) {field : Field}
    (shown : field ∈ pool.keptFields message) :
    Resolves (schema.inputs.map (·.name) ++ schema.enums.map (·.name))
      (plainField pool inputName field).type := by
  rw [state.inputs_eq, names_inputTypes]
  refine plainField_resolves state.inputOrder (fun enum used => ?_)
    (fun message _ => Naming.usable_inputName message.name)
    (readable.usable_enum state.inputs_reached) member shown
  exact state.enumName_mem.mpr ⟨enum, used.mono (List.subset_append_right ..), rfl⟩

theorem Registered.output_mem
    (state : Registered pool (outputs pool service.methods) (requests pool service.methods) types inputs
      enums schema)
    {method : Method} {output : Message} (member : (method, output) ∈ served pool service.methods) :
    objectName output ∈ schema.types.map (·.name) := by
  rw [state.types_eq, names_objectTypes]
  exact (state.typeOrder.pending_covered (mem_outputs_of_mem_served member)).resolve_right List.not_mem_nil

theorem Registered.argument_mem
    (state : Registered pool (outputs pool service.methods) (requests pool service.methods) types inputs
      enums schema)
    {method : Method} {output : Message} (member : (method, output) ∈ served pool service.methods)
    {input : String} (argument : input ∈ (rootField pool method output).arguments) :
    input ∈ schema.inputs.map (·.name) := by
  obtain ⟨⟨place, request⟩, taken, rfl⟩ := List.mem_map.mp argument
  rw [state.inputs_eq, names_inputTypes]
  have pending := mem_requests_of_mem_served member (Option.mem_toList.mp taken)
  exact (state.inputOrder.pending_covered pending).resolve_right List.not_mem_nil

end Registered

theorem objectType_key_mem {message : Message} (entity : (objectType pool message).federated = true) :
    ∃ field ∈ (objectType pool message).fields, field.name = (objectType pool message).keyField := by
  obtain ⟨before, key, after, split, _, _, keyField⟩ := (classified_objectType pool message).first_key entity
  rw [objectType_fields, keyField, split]
  exact ⟨outputField pool key, List.mem_map_of_mem (by simp), rfl⟩

/-- The schema built for a service refers only to what it defines, so that validation has nothing to
report but clashing names. Root fields lead to object types, never to scalars. -/
theorem build_references_hold (pool : Pool) (service : Service) (readable : ReadableNames pool service) :
    validate (build pool service).value = nameIssues [] (entries (build pool service).value) ∧
      ReferencesHold (build pool service).value ∧
      ∀ field ∈ (build pool service).value.query ++ (build pool service).value.mutation,
        TypeExpr.baseName field.type ∈ (build pool service).value.types.map (·.name) := by
  obtain ⟨types, inputs, enums, state⟩ := registered_build pool service
  have root {field : Schema.Field}
      (member : field ∈ (build pool service).value.query ++ (build pool service).value.mutation) :
      Resolves ((build pool service).value.types.map (·.name)) field.type ∧
        TypeExpr.baseName field.type ∈ (build pool service).value.types.map (·.name) := by
    obtain ⟨method, output, listed, rfl⟩ := mem_rootFields member
    have registered := state.output_mem listed
    have reached : Reached pool service output :=
      .root (List.mem_append_left _ (mem_outputs_of_mem_served listed))
    have usable := Naming.usable_typeName (readable.messages output reached)
    have base := TypeExpr.baseName_decorate usable.1.2.2 false false
    have resolves := resolves_decorate usable (.inr registered) false false
    simp only [TypeExpr.decorate_plain] at base resolves
    exact ⟨resolves, base ▸ registered⟩
  have hold : ReferencesHold (build pool service).value := by
    refine ⟨fun field member => (root member).1, ?_, ?_, ?_, ?_⟩
    · intro field member input argument
      obtain ⟨method, output, listed, rfl⟩ := mem_rootFields member
      exact state.argument_mem listed argument
    · intro type member field shown
      rw [state.types_eq] at member
      obtain ⟨message, registered, rfl⟩ := List.mem_map.mp member
      rw [objectType_fields] at shown
      obtain ⟨source, kept, rfl⟩ := List.mem_map.mp shown
      exact state.objectField_resolves readable registered kept
    · intro type member entity
      rw [state.types_eq] at member
      obtain ⟨message, _, rfl⟩ := List.mem_map.mp member
      exact objectType_key_mem entity
    · intro type member field shown
      rw [state.inputs_eq] at member
      obtain ⟨message, registered, rfl⟩ := List.mem_map.mp member
      obtain ⟨source, kept, rfl⟩ := List.mem_map.mp shown
      exact state.inputField_resolves readable registered kept
  exact ⟨validate_eq_nameIssues_iff.mpr hold, hold, fun field member => (root member).2⟩

theorem build_references_hold_shop :
    ReadableNames shopPool shopService ∧
      validate (build shopPool shopService).value =
        nameIssues [] (entries (build shopPool shopService).value) := by
  have readable : ReadableNames shopPool shopService :=
    readableNames_of_pool (by decide +kernel) (by decide +kernel) shopService
  exact ⟨readable, (build_references_hold shopPool shopService readable).1⟩

end Build

end Subgraph
