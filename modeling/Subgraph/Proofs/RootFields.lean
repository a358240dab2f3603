import Mathlib.Data.List.Forall2
import Subgraph.Proofs.Arguments

namespace Subgraph.Build

open Descriptor

/-- The name of the method begins, in any case, with a verb that asks for something. -/
def Asks (method : Method) : Prop :=
  ∃ verb ∈ ["get", "list", "search"], verb.toList <+: Text.lower method.name.toList

theorem classify_eq_query_iff (method : Method) : classify method.name = .query ↔ Asks method := by
  simp only [classify, queryVerbs, Asks, List.isPrefixOf_iff_prefix, List.any_eq_true, ite_eq_left_iff,
    reduceCtorEq, imp_false, not_not]

instance (method : Method) : Decidable (Asks method) :=
  decidable_of_iff (classify method.name = .query) (classify_eq_query_iff method)

theorem classify_eq_mutation_iff (method : Method) : classify method.name = .mutation ↔ ¬Asks method := by
  rw [← classify_eq_query_iff]
  cases classify method.name <;> simp

/-- The methods that are there and have an output message, in their order. -/
def answering (pool : Pool) (methods : List (Option Method)) : List Method :=
  (methods.filterMap id).filter fun method => (pool.message? method.output).isSome

/-- What the root field of a method holds, and that the definitions which it names are in the schema. -/
structure RootOf (pool : Pool) (schema : Schema) (method : Method) (field : Schema.Field) : Prop where
  name : field.name = Naming.lowerFirst method.name
  type : ∃ output, pool.message? method.output = some output ∧ field.type = Naming.typeName output.name
  registered : ∃! type, type ∈ schema.types ∧ type.name = field.type
  comment : field.comment = Comment.clean method.comment
  argument : ∀ request, pool.message? method.input = some request → request.fields ≠ [] →
    field.arguments = [Naming.inputName request.name] ∧
      ∃! input, input ∈ schema.inputs ∧ input.name = Naming.inputName request.name
  no_argument : (∀ request, pool.message? method.input = some request → request.fields = []) →
    field.arguments = []
  nothing_else : field =
    { name := field.name, type := field.type, comment := field.comment, arguments := field.arguments }

/-- The methods divided between two roots: taken in order, each one has a field at the next place of one root,
queries if it asks and mutations otherwise, and the roots have no other fields. -/
inductive Divided (pool : Pool) (schema : Schema) :
    List Method → List Schema.Field → List Schema.Field → Prop
  | done : Divided pool schema [] [] []
  | query {method field methods queries mutations} : Asks method → RootOf pool schema method field →
      Divided pool schema methods queries mutations →
      Divided pool schema (method :: methods) (field :: queries) mutations
  | mutation {method field methods queries mutations} : ¬Asks method → RootOf pool schema method field →
      Divided pool schema methods queries mutations →
      Divided pool schema (method :: methods) queries (field :: mutations)

variable {pool : Pool} {schema : Schema}

theorem Divided.roots {methods : List Method} {queries mutations : List Schema.Field}
    (divided : Divided pool schema methods queries mutations) :
    List.Forall₂ (RootOf pool schema) (methods.filter (Asks ·)) queries ∧
      List.Forall₂ (RootOf pool schema) (methods.filter (¬Asks ·)) mutations := by
  induction divided with
  | done => exact ⟨.nil, .nil⟩
  | query asks root _ ih =>
    rw [List.filter_cons_of_pos (by simpa using asks), List.filter_cons_of_neg (by simpa using asks)]
    exact ⟨.cons root ih.1, ih.2⟩
  | mutation tells root _ ih =>
    rw [List.filter_cons_of_neg (by simpa using tells), List.filter_cons_of_pos (by simpa using tells)]
    exact ⟨ih.1, .cons root ih.2⟩

theorem Divided.length {methods : List Method} {queries mutations : List Schema.Field}
    (divided : Divided pool schema methods queries mutations) :
    methods.length = queries.length + mutations.length := by
  induction divided with
  | done => rfl
  | query _ _ _ ih =>
    simp only [List.length_cons]
    omega
  | mutation _ _ _ ih =>
    simp only [List.length_cons]
    omega

theorem output?_snd (pool : Pool) (method : Method) :
    (output? pool method).map (·.2) = pool.message? method.output := by
  unfold output? Pool.message?
  cases method.output with
  | none => rfl
  | some place =>
    simp only [Option.bind_eq_bind, Option.bind_some]
    cases pool.messages[place]? <;> rfl

theorem served_eq (pool : Pool) (methods : List (Option Method)) :
    served pool methods =
      (methods.filterMap id).filterMap fun method => (pool.message? method.output).map (method, ·) := by
  rw [List.filterMap_filterMap]
  refine List.filterMap_congr fun method? _ => ?_
  cases method? with
  | none => rfl
  | some method =>
    have resolves := output?_snd pool method
    simp only [id_eq, Option.bind_some, Option.bind_eq_bind, ← resolves]
    cases output? pool method <;> rfl

theorem served_methods (pool : Pool) (methods : List (Option Method)) :
    (served pool methods).map (·.1) = answering pool methods := by
  rw [served_eq, answering, List.map_filterMap, ← List.filterMap_eq_filter]
  refine List.filterMap_congr fun method _ => ?_
  cases resolved : pool.message? method.output <;> simp [Option.guard, resolved]

theorem message?_of_mem_served {methods : List (Option Method)} {entry : Method × Message}
    (member : entry ∈ served pool methods) : pool.message? entry.1.output = some entry.2 := by
  rw [served_eq] at member
  obtain ⟨method, _, found⟩ := List.mem_filterMap.mp member
  obtain ⟨output, resolved, rfl⟩ := Option.map_eq_some_iff.mp found
  exact resolved

theorem request?_snd (pool : Pool) (method : Method) :
    (request? pool method).map (·.2) = (pool.message? method.input).filter (!·.fields.isEmpty) := by
  unfold request? Pool.message?
  cases method.input with
  | none => rfl
  | some place =>
    simp only [Option.bind_eq_bind, Option.bind_some]
    cases pool.messages[place]? with
    | none => rfl
    | some message => by_cases empty : message.fields = [] <;> simp [Option.filter_some, empty]

/-- A request without fields is no argument, and neither is one that is missing. -/
theorem rootField_arguments_eq (pool : Pool) (method : Method) (output : Message) :
    (rootField pool method output).arguments =
      ((pool.message? method.input).filter (!·.fields.isEmpty)).toList.map inputName := by
  rw [← request?_snd, rootField]
  cases request? pool method <;> rfl

section Registered

variable {service : Service} {types inputs : List Message} {enums : List Enum}

theorem Registered.type_unique {outputs' requests' : List Message}
    (state : Registered pool outputs' requests' types inputs enums schema) {type other : Schema.ObjectType}
    (member : type ∈ schema.types) (member' : other ∈ schema.types) (same : other.name = type.name) :
    other = type := by
  have distinct : (schema.types.map (·.name)).Nodup := by
    rw [state.types_eq, names_objectTypes]
    exact state.typeOrder.nodup_keys
  exact List.inj_on_of_nodup_map distinct member' member same

/-- Names that are registered are registered once. -/
theorem Registered.rootOf_rootField
    (state : Registered pool (outputs pool service.methods) (requests pool service.methods) types inputs
      enums schema)
    {entry : Method × Message} (listed : entry ∈ served pool service.methods) :
    RootOf pool schema entry.1 (rootField pool entry.1 entry.2) where
  name := rfl
  type := ⟨entry.2, message?_of_mem_served listed, rfl⟩
  registered := by
    obtain ⟨type, member, same⟩ := List.mem_map.mp (state.output_mem listed)
    refine ⟨type, ⟨member, same⟩, fun other found => ?_⟩
    exact state.type_unique member found.1 (found.2.trans same.symm)
  comment := rfl
  argument request found filled := by
    have taken : (rootField pool entry.1 entry.2).arguments = [inputName request] := by
      rw [rootField_arguments_eq, found]
      simp [filled]
    have named : inputName request ∈ (rootField pool entry.1 entry.2).arguments := by simp [taken]
    obtain ⟨input, member, same⟩ := List.mem_map.mp (state.argument_mem listed named)
    refine ⟨taken, input, ⟨member, same⟩, fun other found => ?_⟩
    exact state.input_unique member found.1 (found.2.trans same.symm)
  no_argument empty := by
    rw [rootField_arguments_eq]
    cases found : pool.message? entry.1.input with
    | none => rfl
    | some request => simp [empty request found]
  nothing_else := rfl

end Registered

/-- Methods whose fields are known are divided by what their names begin with. -/
theorem divided_of_rootOf {entries : List (Method × Message)}
    (each : ∀ entry ∈ entries, RootOf pool schema entry.1 (rootField pool entry.1 entry.2)) :
    Divided pool schema (entries.map (·.1))
      ((entries.filter fun entry => classify entry.1.name = .query).map fun entry =>
        rootField pool entry.1 entry.2)
      ((entries.filter fun entry => classify entry.1.name = .mutation).map fun entry =>
        rootField pool entry.1 entry.2) := by
  induction entries with
  | nil => exact .done
  | cons entry entries ih =>
    have here := each entry List.mem_cons_self
    have others := ih fun later member => each later (List.mem_cons_of_mem _ member)
    cases kind : classify entry.1.name with
    | query =>
      have step := Divided.query ((classify_eq_query_iff entry.1).mp kind) here others
      simpa [kind] using step
    | mutation =>
      have step := Divided.mutation ((classify_eq_mutation_iff entry.1).mp kind) here others
      simpa [kind] using step

/-- The two roots of a schema divide the methods of its service that have an output, in their order and without
a rest. Queries are the fields of the methods that ask, mutations those of the others. -/
theorem methods_divided (pool : Pool) (service : Service) :
    let schema := (build pool service).value
    let methods := answering pool service.methods
    Divided pool schema methods schema.query schema.mutation ∧
      List.Forall₂ (RootOf pool schema) (methods.filter (Asks ·)) schema.query ∧
      List.Forall₂ (RootOf pool schema) (methods.filter (¬Asks ·)) schema.mutation ∧
      methods.length = schema.query.length + schema.mutation.length := by
  obtain ⟨types, inputs, enums, state⟩ := registered_build pool service
  have divided : Divided pool (build pool service).value (answering pool service.methods)
      (rootFields (build pool service).value .query) (rootFields (build pool service).value .mutation) := by
    rw [← served_methods, rootFields_build, rootFields_build]
    exact divided_of_rootOf fun entry listed => state.rootOf_rootField listed
  exact ⟨divided, divided.roots.1, divided.roots.2, divided.length⟩

end Subgraph.Build
