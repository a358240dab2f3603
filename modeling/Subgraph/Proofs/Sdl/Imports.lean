import Subgraph.Proofs.Sdl.Service

namespace Subgraph

namespace Sdl

open Schema

/-- A directive of this name is among those of the text. -/
def Applies (name text : String) : Prop :=
  ∃ directives, directivesOn text = some directives ∧ ∃ directive ∈ directives, directive.name = name

/-- Whatever a field requires, its text has the directives that it should. -/
theorem directivesOn_field (field : Field) :
    directivesOn field.directives = some (objectFieldOutline field).directives :=
  directivesOn_of_closes (closes_line.fieldDirectives field)

theorem applies_external_iff {field : Field} : Applies "external" field.directives ↔ field.external = true := by
  simp only [Applies, directivesOn_field, Option.some.injEq, exists_eq_left', objectFieldOutline]
  cases field.external <;> simp [selection]

theorem applies_requires_iff {field : Field} :
    Applies "requires" field.directives ↔ field.requirement?.isSome = true := by
  simp only [Applies, directivesOn_field, Option.some.injEq, exists_eq_left', objectFieldOutline]
  cases field.requirement? <;> simp [selection]

theorem directives_ne_empty_iff {type : ObjectType} :
    type.directives ≠ "" ↔ type.federated = true ∧ type.keyField ≠ "" := by
  by_cases shown : (type.federated && !type.keyField.isEmpty) = true
  · rw [ObjectType.directives, if_pos shown]
    simpa [toString] using shown
  · rw [ObjectType.directives, if_neg shown]
    simpa using shown

/-- What a schema imports: keys if it has entities, the others if a field has them. -/
theorem mem_imports_iff {schema : Schema} {entry : String} :
    entry ∈ schema.federationImports ↔
      (entry = "@key" ∧ ∃ type ∈ schema.types, type.federated = true) ∨
        (entry = "@external" ∧ ∃ type ∈ schema.types, ∃ field ∈ type.fields, field.external = true) ∨
        entry = "@requires" ∧
          ∃ type ∈ schema.types, ∃ field ∈ type.fields, field.requirement?.isSome = true := by
  have present (shown : Prop) [Decidable shown] (name : String) :
      entry ∈ (if shown then [name] else []) ↔ entry = name ∧ shown := by
    by_cases shown : shown <;> simp [shown]
  have absent (hidden : Prop) [Decidable hidden] (name : String) :
      entry ∈ (if hidden then [] else [name]) ↔ entry = name ∧ ¬hidden := by
    by_cases hidden : hidden <;> simp [hidden]
  simp only [federationImports, List.mem_append, present, absent, or_assoc]
  simp [entities]

/-- The directives that a definition puts to use. The extension of the schema only tells where they come from. -/
def Definition.applied : Definition → List Directive
  | extension _ => []
  | object _ _ directives fields => directives ++ fields.flatMap (·.directives)
  | input _ _ _ => []
  | enum _ _ _ => []

def Value.names : Value → List String
  | text _ => []
  | list values => values

/-- The names that a directive imports, if it is a link. -/
def Directive.imported (directive : Directive) : List String :=
  if directive.name = "link" then
    directive.arguments.flatMap fun argument =>
      if argument.name = "import" then argument.value.names else []
  else []

def Definition.imported : Definition → List String
  | extension directives => directives.flatMap Directive.imported
  | object _ _ _ _ => []
  | input _ _ _ => []
  | enum _ _ _ => []

/-- The document imports the directives that it uses and no others, each of them once. -/
def LinksUsed (document : String) : Prop :=
  ∃ definitions, read? document = some definitions ∧
    (definitions.flatMap Definition.imported).Nodup ∧
    ∀ entry, entry ∈ definitions.flatMap Definition.imported ↔
      ∃ directive ∈ definitions.flatMap Definition.applied, entry = "@" ++ directive.name

theorem imported_outline (schema : Schema) :
    (outline schema).flatMap Definition.imported = schema.federationImports := by
  have link : (if schema.federationImports.isEmpty then []
      else [linkOutline schema.federationImports]).flatMap Definition.imported = schema.federationImports := by
    by_cases empty : schema.federationImports = []
    · simp [empty]
    · simp [empty, linkOutline, Definition.imported, Directive.imported, Value.names]
  have mutation : (if schema.mutation.isEmpty then []
      else [Definition.object none "Mutation" [] (schema.mutation.map rootFieldOutline)]).flatMap
        Definition.imported = [] := by
    split <;> rfl
  simp only [outline, List.flatMap_append, List.flatMap_cons, List.flatMap_map, link, mutation]
  simp [objectOutline, inputOutline, enumOutline, Definition.imported]

/-- The placeholder has no directives. -/
theorem directives_filled (fields : List FieldDefinition) :
    (filled placeholderField fields).flatMap (·.directives) = fields.flatMap (·.directives) := by
  cases fields <;> rfl

theorem applied_root (description : Option String) (name : String) (fields : List Field) :
    (Definition.object description name [] (filled placeholderField (fields.map rootFieldOutline))).applied =
      [] := by
  rw [Definition.applied, directives_filled, List.flatMap_map]
  simp [rootFieldOutline]

/-- Only object types use directives: their own, and those of their fields. -/
theorem applied_outline (schema : Schema) :
    (outline schema).flatMap Definition.applied = schema.types.flatMap fun type =>
      (if type.federated && !type.keyField.isEmpty then [selection "key" type.keyField] else []) ++
        type.fields.flatMap fun field => (objectFieldOutline field).directives := by
  have link : (if schema.federationImports.isEmpty then []
      else [linkOutline schema.federationImports]).flatMap Definition.applied = [] := by
    split <;> rfl
  have mutation : (if schema.mutation.isEmpty then []
      else [Definition.object none "Mutation" [] (schema.mutation.map rootFieldOutline)]).flatMap
        Definition.applied = [] := by
    split
    · rfl
    · simp [Definition.applied, rootFieldOutline, List.flatMap_map]
  have object (type : ObjectType) : (objectOutline type).applied =
      (if type.federated && !type.keyField.isEmpty then [selection "key" type.keyField] else []) ++
        type.fields.flatMap fun field => (objectFieldOutline field).directives := by
    rw [objectOutline, Definition.applied, directives_filled, List.flatMap_map]
  simp only [outline, List.flatMap_append, List.flatMap_cons, List.flatMap_map, link, mutation, applied_root,
    object]
  simp [inputOutline, enumOutline, Definition.applied]

/-- What a document uses: keys if an entity has one to show, the others if a field has them. -/
theorem mem_used_iff {schema : Schema} {entry : String} :
    (∃ directive ∈ (outline schema).flatMap Definition.applied, entry = "@" ++ directive.name) ↔
      (entry = "@key" ∧ ∃ type ∈ schema.types, type.federated = true ∧ type.keyField ≠ "") ∨
        (entry = "@external" ∧ ∃ type ∈ schema.types, ∃ field ∈ type.fields, field.external = true) ∨
        entry = "@requires" ∧
          ∃ type ∈ schema.types, ∃ field ∈ type.fields, field.requirement?.isSome = true := by
  have own (type : ObjectType) :
      (∃ directive ∈ if type.federated && !type.keyField.isEmpty then [selection "key" type.keyField] else [],
        entry = "@" ++ directive.name) ↔ entry = "@key" ∧ type.federated = true ∧ type.keyField ≠ "" := by
    by_cases entity : type.federated = true <;> by_cases named : type.keyField = "" <;>
      simp [entity, named, selection]
  have fields (field : Field) :
      (∃ directive ∈ (objectFieldOutline field).directives, entry = "@" ++ directive.name) ↔
        (entry = "@external" ∧ field.external = true) ∨
          entry = "@requires" ∧ field.requirement?.isSome = true := by
    cases external : field.external <;> cases required : field.requirement? <;>
      simp [objectFieldOutline, external, required, selection]
  rw [applied_outline]
  simp only [List.mem_flatMap, List.mem_append]
  constructor
  · rintro ⟨directive, ⟨type, member, key | ⟨field, inside, used⟩⟩, same⟩
    · obtain ⟨label, shown⟩ := (own type).mp ⟨directive, key, same⟩
      exact .inl ⟨label, type, member, shown⟩
    · rcases (fields field).mp ⟨directive, used, same⟩ with ⟨label, shown⟩ | ⟨label, shown⟩
      · exact .inr (.inl ⟨label, type, member, field, inside, shown⟩)
      · exact .inr (.inr ⟨label, type, member, field, inside, shown⟩)
  · rintro (⟨label, type, member, shown⟩ | ⟨label, type, member, field, inside, shown⟩ |
      ⟨label, type, member, field, inside, shown⟩)
    · obtain ⟨directive, key, same⟩ := (own type).mpr ⟨label, shown⟩
      exact ⟨directive, ⟨type, member, .inl key⟩, same⟩
    · obtain ⟨directive, used, same⟩ := (fields field).mpr (.inl ⟨label, shown⟩)
      exact ⟨directive, ⟨type, member, .inr ⟨field, inside, used⟩⟩, same⟩
    · obtain ⟨directive, used, same⟩ := (fields field).mpr (.inr ⟨label, shown⟩)
      exact ⟨directive, ⟨type, member, .inr ⟨field, inside, used⟩⟩, same⟩

/-- Where every entity has a key to show, a document that can be read imports what it uses. -/
theorem linksUsed_document {schema : Schema} (printable : Printable schema)
    (keyed : ∀ type ∈ schema.types, type.federated = true → type.keyField ≠ "") :
    LinksUsed (document schema) := by
  have shown : (∃ type ∈ schema.types, type.federated = true) ↔
      ∃ type ∈ schema.types, type.federated = true ∧ type.keyField ≠ "" :=
    exists_congr fun type => and_congr_right fun member => (and_iff_left_of_imp (keyed type member)).symm
  refine ⟨outline schema, read?_document printable, ?_, fun entry => ?_⟩
  · rw [imported_outline]
    exact (federationImports_sublist schema).nodup (by decide)
  · rw [imported_outline, mem_imports_iff, mem_used_iff, shown]

end Sdl

namespace Build

open Descriptor Sdl

variable {pool : Pool}

/-- The field that the entity made from a message is found by. -/
def entityKey? (pool : Pool) (message : Message) : Option Field :=
  if (entity pool message).value then shownKey? pool message else none

theorem objectType_federated_eq (pool : Pool) (message : Message) :
    (objectType pool message).federated = (entityKey? pool message).isSome := by
  unfold objectType entityKey?
  cases (entity pool message).value <;> cases shownKey? pool message <;> rfl

theorem objectType_keyField_eq {message : Message} {key : Field} (found : entityKey? pool message = some key) :
    (objectType pool message).keyField = Naming.fieldName key.name := by
  unfold entityKey? at found
  cases decided : (entity pool message).value with
  | false => simp [decided] at found
  | true =>
    simp only [decided, if_true] at found
    simp [objectType, decided, found]

/-- The imports are in a fixed order, with nothing else and nothing twice among them, and those that fields
need are there if a field shows them. -/
structure FieldImportsMatch (schema : Schema) : Prop where
  listed : schema.federationImports.Sublist ["@key", "@external", "@requires"]
  external : "@external" ∈ schema.federationImports ↔
    ∃ type ∈ schema.types, ∃ field ∈ type.fields, Applies "external" field.directives
  requires : "@requires" ∈ schema.federationImports ↔
    ∃ type ∈ schema.types, ∃ field ∈ type.fields, Applies "requires" field.directives

/-- Keys are imported if a type shows one. -/
def KeyImportMatches (schema : Schema) : Prop :=
  "@key" ∈ schema.federationImports ↔ ∃ type ∈ schema.types, type.directives ≠ ""

theorem fieldImportsMatch (schema : Schema) : FieldImportsMatch schema where
  listed := federationImports_sublist schema
  external := by simp [mem_imports_iff, applies_external_iff]
  requires := by simp [mem_imports_iff, applies_requires_iff]

/-- There are keys, and nothing is left of the name of any of them. -/
def Nameless (keys : List Field) : Prop :=
  keys ≠ [] ∧ ∀ key ∈ keys, Naming.fieldName key.name = ""

section Keys

variable {messages : List Message}

theorem federated_iff_keys : (∃ type ∈ messages.map (objectType pool), type.federated = true) ↔
    messages.filterMap (entityKey? pool) ≠ [] := by
  simp only [ne_eq, List.filterMap_eq_nil_iff, not_forall, List.mem_map, exists_prop,
    exists_exists_and_eq_and, objectType_federated_eq, Option.isSome_iff_ne_none]

theorem directives_iff_keys : (∃ type ∈ messages.map (objectType pool), type.directives ≠ "") ↔
    ∃ key ∈ messages.filterMap (entityKey? pool), Naming.fieldName key.name ≠ "" := by
  simp only [directives_ne_empty_iff, List.mem_map, exists_exists_and_eq_and, objectType_federated_eq,
    Option.isSome_iff_exists, List.mem_filterMap]
  constructor
  · rintro ⟨message, member, ⟨key, found⟩, named⟩
    exact ⟨key, ⟨message, member, found⟩, objectType_keyField_eq found ▸ named⟩
  · rintro ⟨key, ⟨message, member, found⟩, named⟩
    exact ⟨message, member, ⟨key, found⟩, (objectType_keyField_eq found).symm ▸ named⟩

end Keys

/-- The names of fields in a document are not empty, and the key of an entity is one of them. -/
theorem keyField_ne_empty {service : Service} (printable : Printable (build pool service).value)
    {type : Schema.ObjectType} (member : type ∈ (build pool service).value.types)
    (entity : type.federated = true) : type.keyField ≠ "" := by
  obtain ⟨types, inputs, enums, state⟩ := registered_build pool service
  have fields := (printable.types type member).fields
  rw [state.types_eq] at member
  obtain ⟨message, _, rfl⟩ := List.mem_map.mp member
  obtain ⟨field, inside, named⟩ := objectType_key_mem entity
  intro empty
  have nonempty := (fields field inside).name.1
  rw [named, empty] at nonempty
  exact nonempty rfl

/-- The imports of a schema are the directives that its types and fields show, except that keys are imported in
vain if there are entities and none of them has a key whose name leaves something to show. In a document that can
be read this does not happen, and the link imports what the document uses. -/
theorem imports_match_use (pool : Pool) (service : Service) :
    FieldImportsMatch (build pool service).value ∧
      (∃ messages, Preorder pool.references objectName [] (outputs pool service.methods) messages ∧
        (KeyImportMatches (build pool service).value ↔ ¬Nameless (messages.filterMap (entityKey? pool))) ∧
        (Nameless (messages.filterMap (entityKey? pool)) →
          "@key" ∈ (build pool service).value.federationImports)) ∧
      (Printable (build pool service).value → ∃ document,
        Layout.standard.render (build pool service).value = .ok document ∧ LinksUsed document) := by
  obtain ⟨types, inputs, enums, state⟩ := registered_build pool service
  have imported : "@key" ∈ (build pool service).value.federationImports ↔
      types.filterMap (entityKey? pool) ≠ [] := by
    rw [← federated_iff_keys, ← state.types_eq]
    simp [mem_imports_iff]
  have shown : (∃ type ∈ (build pool service).value.types, type.directives ≠ "") ↔
      ∃ key ∈ types.filterMap (entityKey? pool), Naming.fieldName key.name ≠ "" := by
    rw [← directives_iff_keys, ← state.types_eq]
  refine ⟨fieldImportsMatch _, ⟨types, state.typeOrder, ?_, fun nameless => imported.mpr nameless.1⟩,
    fun printable => ⟨_, rfl, linksUsed_document printable fun _ => keyField_ne_empty printable⟩⟩
  rw [KeyImportMatches, imported, shown, Nameless]
  constructor
  · rintro same ⟨nonempty, nameless⟩
    obtain ⟨key, member, named⟩ := same.mp nonempty
    exact named (nameless key member)
  · intro named
    constructor
    · intro nonempty
      by_contra nameless
      exact named ⟨nonempty, fun key member => by_contra fun other => nameless ⟨key, member, other⟩⟩
    · rintro ⟨key, member, _⟩
      exact List.ne_nil_of_mem member

/-- The schema of one output message that refers to no other. -/
theorem types_of_leaf {service : Service} {output : Message} (only : outputs pool service.methods = [output])
    (alone : pool.references output = []) :
    (build pool service).value.types = [objectType pool output] := by
  obtain ⟨types, inputs, enums, state⟩ := registered_build pool service
  have walk := state.typeOrder
  rw [only] at walk
  rw [state.types_eq, walk.leaf alone, List.map_singleton]

/-- A balance that belongs to another service, and a total that is worked out from it. -/
def account : Message where
  name := "Account"
  fullName := "bank.Account"
  fields :=
    [some { name := "account_id" },
     some { name := "balance", options := ⟨[⟨OptionSet.externalOption, .varint 1⟩]⟩ },
     some { name := "total", options := ⟨[⟨OptionSet.requiresOption, .bytes [98]⟩]⟩ }]

/-- An entity whose key is called by an underscore. -/
def blank : Message where
  name := "Blank"
  fullName := "bank.Blank"
  fields := [some { name := "_", options := ⟨[⟨OptionSet.keyOption, .varint 1⟩]⟩ }]

/-- A service that gives away one kind of message. -/
def bank : Service where
  name := "Bank"
  fullName := "bank.Bank"
  methods := [some { name := "GetOne", output := some 0 }]

theorem imports_match_use_account :
    Printable (build { messages := [account] } bank).value ∧
      (build { messages := [account] } bank).value.federationImports = ["@key", "@external", "@requires"] ∧
      ∃ document, Layout.standard.render (build { messages := [account] } bank).value = .ok document ∧
        LinksUsed document := by
  have named : WellNamed { messages := [account] } bank :=
    wellNamed_of_pool ⟨["bank", "Bank"], by decide, by decide, by decide⟩ (by decide +kernel)
      (by decide +kernel) (by decide +kernel) (by decide +kernel) fun enum member => by cases member
  have printable := named.printable_build
  refine ⟨printable, ?_, (imports_match_use { messages := [account] } bank).2.2 printable⟩
  rw [Schema.federationImports, Schema.entities, types_of_leaf rfl rfl]
  decide +kernel

/-- Nothing is left of the key's name, so the entity does not show it, and keys are imported in vain. -/
theorem key_imported_in_vain : ¬KeyImportMatches (build { messages := [blank] } bank).value := by
  have types : (build { messages := [blank] } bank).value.types = [objectType { messages := [blank] } blank] :=
    types_of_leaf rfl rfl
  have hidden : (objectType { messages := [blank] } blank).federated = true ∧
      (objectType { messages := [blank] } blank).directives = "" := by
    decide +kernel
  intro same
  have listed : "@key" ∈ (build { messages := [blank] } bank).value.federationImports :=
    mem_imports_iff.mpr (.inl ⟨rfl, _, types ▸ List.mem_singleton_self _, hidden.1⟩)
  obtain ⟨type, member, shown⟩ := same.mp listed
  rw [types, List.mem_singleton] at member
  exact shown (member ▸ hidden.2)

end Build

end Subgraph
