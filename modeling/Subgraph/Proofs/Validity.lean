import Subgraph.Proofs.Closure
import Subgraph.Proofs.Registry

namespace Subgraph

/-- All definitions of a schema, object types first and enum types last. -/
def Schema.definitions (schema : Schema) : List Schema.Definition :=
  schema.types.map .object ++ schema.inputs.map .input ++ schema.enums.map .enum

namespace Validation

open Schema

/-- Names pass if none of them is that of a root, stands twice or has been taken before. -/
theorem nameIssues_eq_nil_iff {taken entries : List (String × DefinitionKind)} :
    nameIssues taken entries = [] ↔
      (∀ name ∈ entries.map (·.1), name ∉ rootNames ∧ name ∉ taken.map (·.1)) ∧
        (entries.map (·.1)).Nodup := by
  induction entries generalizing taken with
  | nil => simp [nameIssues]
  | cons entry entries ih =>
    obtain ⟨name, kind⟩ := entry
    rw [nameIssues]
    by_cases root : rootNames.contains name = true
    · rw [if_pos root]
      have listed : name ∈ rootNames := by simpa using root
      simp [listed]
    · rw [if_neg root]
      have free : name ∉ rootNames := by simpa using root
      cases found : taken.lookup name with
      | some holder =>
        have held : name ∈ taken.map (·.1) := by
          by_contra absent
          exact absurd (found.symm.trans (Registry.get?_eq_none.mpr absent)) (by simp)
        constructor
        · exact fun none => absurd none (List.cons_ne_nil _ _)
        · exact fun pass => absurd held (pass.1 name List.mem_cons_self).2
      | none =>
        have fresh : name ∉ taken.map (·.1) := Registry.get?_eq_none.mp found
        simp only [ih, List.map_cons, List.mem_cons, List.nodup_cons]
        constructor
        · rintro ⟨each, distinct⟩
          refine ⟨?_, fun again => (each name again).2 (.inl rfl), distinct⟩
          rintro other (rfl | later)
          · exact ⟨free, fresh⟩
          · exact ⟨(each other later).1, fun held => (each other later).2 (.inr held)⟩
        · rintro ⟨each, once, distinct⟩
          refine ⟨fun other later => ⟨(each other (.inr later)).1, ?_⟩, distinct⟩
          rintro (rfl | held)
          · exact once later
          · exact (each other (.inr later)).2 held

theorem names_entries (schema : Schema) :
    (entries schema).map (·.1) = schema.definitions.map (·.name) := by
  simp [entries, definitions, Function.comp_def, Definition.name]

theorem validate_eq_nil_iff {schema : Schema} :
    validate schema = [] ↔ nameIssues [] (entries schema) = [] ∧ ReferencesHold schema := by
  rw [← validate_eq_nameIssues_iff]
  constructor
  · intro valid
    have names : nameIssues [] (entries schema) = [] := by
      simp only [validate, List.append_eq_nil_iff] at valid
      exact valid.1.1.1.1
    exact ⟨names, valid.trans names.symm⟩
  · rintro ⟨names, rest⟩
    exact rest.trans names

/-- All that a schema is checked for: the names of its definitions are different from each other and from
those of the roots, and its references hold. -/
structure Valid (schema : Schema) : Prop where
  distinct : (schema.types.map (·.name) ++ schema.inputs.map (·.name) ++ schema.enums.map (·.name)).Nodup
  unreserved : ∀ name ∈ schema.types.map (·.name) ++ schema.inputs.map (·.name) ++ schema.enums.map (·.name),
    name ≠ "Query" ∧ name ≠ "Mutation"
  references : ReferencesHold schema

/-- Issues are reported for a schema if and only if it is not valid, whatever else the schema holds. -/
theorem verdict_exact (schema : Schema) : validate schema = [] ↔ Valid schema := by
  have listed : (entries schema).map (·.1) =
      schema.types.map (·.name) ++ schema.inputs.map (·.name) ++ schema.enums.map (·.name) := by
    simp [entries, Function.comp_def]
  have root (name : String) : name ∉ rootNames ↔ name ≠ "Query" ∧ name ≠ "Mutation" := by
    simp [rootNames]
  rw [validate_eq_nil_iff, nameIssues_eq_nil_iff, listed]
  constructor
  · rintro ⟨⟨each, distinct⟩, references⟩
    exact ⟨distinct, fun name member => (root name).mp (each name member).1, references⟩
  · rintro ⟨distinct, unreserved, references⟩
    refine ⟨⟨fun name member => ⟨(root name).mpr (unreserved name member), ?_⟩, distinct⟩, references⟩
    exact List.not_mem_nil

/-- What a name may stand for. -/
inductive Referent where
  | scalar (name : String)
  | defined (definition : Definition)
  deriving DecidableEq, Repr

/-- All that a name stands for in a schema, among the scalars of GraphQL and the definitions of the schema. -/
def referents (schema : Schema) (name : String) : List Referent :=
  (TypeExpr.builtinScalars.filter (· == name)).map .scalar ++
    (schema.definitions.filter (·.name == name)).map .defined

/-- Where a field stands. -/
inductive Position where
  | root
  | object
  | input
  deriving DecidableEq, Repr

def Position.fields (schema : Schema) : Position → List Field
  | root => schema.query ++ schema.mutation
  | object => schema.types.flatMap (·.fields)
  | input => schema.inputs.flatMap (·.fields)

/-- What the type of a field may be built on. -/
def Position.admits : Position → Referent → Bool
  | _, .scalar _ => true
  | root, .defined (.object _) => true
  | object, .defined (.object _) => true
  | object, .defined (.enum _) => true
  | input, .defined (.input _) => true
  | input, .defined (.enum _) => true
  | _, _ => false

/-- The name stands for one thing, and this may be there. -/
def Denotes (schema : Schema) (position : Position) (name : String) : Prop :=
  ∃ referent, referents schema name = [referent] ∧ position.admits referent = true

/-- The schema has a definition with the name of a scalar. -/
def Redefines (schema : Schema) (name : String) : Prop :=
  TypeExpr.isScalar name = true ∧ ∃ definition ∈ schema.definitions, definition.name = name

instance (schema : Schema) (name : String) : Decidable (Redefines schema name) :=
  inferInstanceAs (Decidable (_ ∧ _))

/-- Keys that are all different find one item. -/
theorem filter_key {α : Type} {key : α → String} {items : List α} (distinct : (items.map key).Nodup)
    {item : α} (member : item ∈ items) : items.filter (key · == key item) = [item] := by
  induction items with
  | nil => cases member
  | cons first items ih =>
    obtain ⟨once, others⟩ := List.nodup_cons.mp distinct
    rcases List.mem_cons.mp member with rfl | later
    · have none : items.filter (key · == key item) = [] := by
        refine List.filter_eq_nil_iff.mpr fun other listed same => once ?_
        exact List.mem_map.mpr ⟨other, listed, by simpa using same⟩
      rw [List.filter_cons_of_pos (by simp), none]
    · have differs : key first ≠ key item := fun same => once (same ▸ List.mem_map_of_mem later)
      rw [List.filter_cons_of_neg (by simpa using differs), ih others later]

theorem filter_key_none {α : Type} {key : α → String} {items : List α} {name : String}
    (missing : ¬∃ item ∈ items, key item = name) : items.filter (key · == name) = [] :=
  List.filter_eq_nil_iff.mpr fun item listed same => missing ⟨item, listed, by simpa using same⟩

/-- The names that a field may refer to, besides scalars. -/
def Position.known (schema : Schema) : Position → List String
  | root => schema.types.map (·.name)
  | object => schema.types.map (·.name) ++ schema.enums.map (·.name)
  | input => schema.inputs.map (·.name) ++ schema.enums.map (·.name)

theorem ReferencesHold.resolves {schema : Schema} (hold : ReferencesHold schema) (position : Position)
    {field : Field} (member : field ∈ position.fields schema) :
    Resolves (position.known schema) field.type := by
  cases position with
  | root => exact hold.roots field member
  | object =>
    obtain ⟨type, registered, inside⟩ := List.mem_flatMap.mp member
    exact hold.objectFields type registered field inside
  | input =>
    obtain ⟨type, registered, inside⟩ := List.mem_flatMap.mp member
    exact hold.inputFields type registered field inside

/-- A name listed for definitions of one kind has a definition of that kind. -/
theorem Position.exists_of_listed {α : Type} {schema : Schema} {position : Position} {name : String}
    {items : List α} {kind : α → Definition} (registered : ∀ item ∈ items, kind item ∈ schema.definitions)
    (listed : name ∈ items.map fun item => (kind item).name)
    (admitted : ∀ item, position.admits (.defined (kind item)) = true) :
    ∃ definition ∈ schema.definitions, definition.name = name ∧
      position.admits (.defined definition) = true := by
  obtain ⟨item, member, same⟩ := List.mem_map.mp listed
  exact ⟨kind item, registered item member, same, admitted item⟩

/-- A known name has a definition of a kind that may stand there. -/
theorem Position.exists_of_known {schema : Schema} (position : Position) {name : String}
    (known : name ∈ position.known schema) :
    ∃ definition ∈ schema.definitions, definition.name = name ∧
      position.admits (.defined definition) = true := by
  have object : ∀ type ∈ schema.types, .object type ∈ schema.definitions := by simp [definitions]
  have input : ∀ type ∈ schema.inputs, .input type ∈ schema.definitions := by simp [definitions]
  have enum : ∀ type ∈ schema.enums, .enum type ∈ schema.definitions := by simp [definitions]
  cases position with
  | root => exact exists_of_listed object known fun _ => rfl
  | object =>
    rcases List.mem_append.mp known with listed | listed
    · exact exists_of_listed object listed fun _ => rfl
    · exact exists_of_listed enum listed fun _ => rfl
  | input =>
    rcases List.mem_append.mp known with listed | listed
    · exact exists_of_listed input listed fun _ => rfl
    · exact exists_of_listed enum listed fun _ => rfl

theorem scalars_named (name : String) :
    TypeExpr.builtinScalars.filter (· == name) = if TypeExpr.isScalar name then [name] else [] := by
  by_cases scalar : TypeExpr.isScalar name = true
  · have listed : name ∈ TypeExpr.builtinScalars := by simpa [TypeExpr.isScalar] using scalar
    have distinct : (TypeExpr.builtinScalars.map id).Nodup := by decide
    rw [if_pos scalar]
    exact filter_key distinct listed
  · rw [if_neg scalar]
    refine filter_key_none fun found => scalar ?_
    obtain ⟨_, listed, rfl⟩ := found
    simpa [TypeExpr.isScalar] using listed

theorem referents_of_defined {schema : Schema} (distinct : (schema.definitions.map (·.name)).Nodup)
    {definition : Definition} (member : definition ∈ schema.definitions) {name : String}
    (named : definition.name = name) :
    referents schema name =
      (if TypeExpr.isScalar name then [.scalar name] else []) ++ [.defined definition] := by
  subst named
  rw [referents, scalars_named, filter_key distinct member]
  split <;> rfl

theorem referents_of_undefined {schema : Schema} {name : String}
    (missing : ¬∃ definition ∈ schema.definitions, definition.name = name) :
    referents schema name = if TypeExpr.isScalar name then [.scalar name] else [] := by
  rw [referents, scalars_named, filter_key_none missing]
  split <;> rfl

/-- In a valid schema the type of a field leads to one definition, of a kind that may stand where the field
stands. The exception is a definition with the name of a scalar, which goes unnoticed: the name then stands for
both of them. -/
theorem valid_references_denote (schema : Schema) (valid : validate schema = []) (position : Position)
    (field : Field) (member : field ∈ position.fields schema) :
    (Denotes schema position (TypeExpr.baseName field.type) ↔
        ¬Redefines schema (TypeExpr.baseName field.type)) ∧
      (Redefines schema (TypeExpr.baseName field.type) → ∃ definition ∈ schema.definitions,
        referents schema (TypeExpr.baseName field.type) =
          [.scalar (TypeExpr.baseName field.type), .defined definition]) := by
  obtain ⟨names, hold⟩ := validate_eq_nil_iff.mp valid
  have distinct : (schema.definitions.map (·.name)).Nodup :=
    names_entries schema ▸ (nameIssues_eq_nil_iff.mp names).2
  have resolved := (hold.resolves position member).2
  generalize TypeExpr.baseName field.type = base at resolved
  have both (redefined : Redefines schema base) : ∃ definition ∈ schema.definitions,
      referents schema base = [.scalar base, .defined definition] := by
    obtain ⟨scalar, definition, registered, named⟩ := redefined
    refine ⟨definition, registered, ?_⟩
    rw [referents_of_defined distinct registered named, if_pos scalar]
    rfl
  refine ⟨⟨fun denotes redefined => ?_, fun single => ?_⟩, both⟩
  · obtain ⟨referent, alone, _⟩ := denotes
    obtain ⟨definition, _, two⟩ := both redefined
    rw [alone] at two
    cases two
  · by_cases scalar : TypeExpr.isScalar base = true
    · have missing : ¬∃ definition ∈ schema.definitions, definition.name = base := fun found =>
        single ⟨scalar, found⟩
      exact ⟨.scalar base, by rw [referents_of_undefined missing, if_pos scalar], by cases position <;> rfl⟩
    · obtain ⟨definition, registered, named, admitted⟩ :=
        position.exists_of_known (resolved.resolve_left scalar)
      exact ⟨.defined definition, by rw [referents_of_defined distinct registered named, if_neg scalar]; rfl,
        admitted⟩

/-- References at all three positions, under brackets and marks. -/
def stockSchema : Schema where
  service := "shop.Stock"
  query := [{ name := "getItem", type := "Item", arguments := ["GetItemInput"] }]
  types :=
    [{ name := "Item", fields := [{ name := "id", type := "ID!" }, { name := "states", type := "[ State! ]!" }] }]
  inputs := [{ name := "GetItemInput", fields := [{ name := "like", type := "[GetItemInput]" }] }]
  enums := [{ name := "State", options := [{ name := "OPEN" }] }]

theorem valid_references_denote_stock :
    validate stockSchema = [] ∧ Denotes stockSchema .object (TypeExpr.baseName "[ State! ]!") := by
  have valid : validate stockSchema = [] := by decide +kernel
  have denotes := valid_references_denote stockSchema valid .object
    { name := "states", type := "[ State! ]!" } (by decide)
  exact ⟨valid, denotes.1.mpr (by decide +kernel)⟩

/-- A type for texts that takes the name of the scalar. -/
def textSchema : Schema where
  service := "shop.Texts"
  types := [{ name := "String", fields := [{ name := "value", type := "String!" }] }]

/-- Nothing is reported, and the field may mean the scalar or the type that it belongs to. -/
theorem redefined_scalar_unreported :
    validate textSchema = [] ∧ ∃ field ∈ Position.object.fields textSchema,
      ¬Denotes textSchema .object (TypeExpr.baseName field.type) := by
  refine ⟨by decide +kernel, { name := "value", type := "String!" }, by decide, ?_⟩
  rintro ⟨referent, alone, _⟩
  have two : (referents textSchema (TypeExpr.baseName "String!")).length = 2 := by decide +kernel
  rw [alone] at two
  cases two

end Validation

end Subgraph
