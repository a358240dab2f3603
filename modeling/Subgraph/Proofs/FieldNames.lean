import Subgraph.Proofs.RootFields
import Subgraph.Proofs.SnakeCase

namespace Subgraph.Build

open Descriptor

/-- Names by the style guide: fields in snake case, methods with a capital first, and no two alike in one
message or in the service. -/
structure StyleGuide (pool : Pool) (service : Service) : Prop where
  fieldNames : ∀ message, Reached pool service message → ∀ field, some field ∈ message.fields →
    Words.IsSnake field.name.toList
  fieldsApart : ∀ message, Reached pool service message →
    ((message.fields.filterMap id).map (·.name)).Nodup
  methodNames : ∀ method, some method ∈ service.methods → Words.startsUpper method.name.toList = true
  methodsApart : ((service.methods.filterMap id).map (·.name)).Nodup

/-- No two fields of a definition have one name, and no two root fields of one kind. -/
structure FieldsApart (schema : Schema) : Prop where
  types : ∀ type ∈ schema.types, (type.fields.map (·.name)).Nodup
  inputs : ∀ type ∈ schema.inputs, (type.fields.map (·.name)).Nodup
  query : (schema.query.map (·.name)).Nodup
  mutation : (schema.mutation.map (·.name)).Nodup

variable {pool : Pool} {service : Service}

/-- Skipped fields leave gaps, and the names of the others stay apart. -/
theorem StyleGuide.shownNames_nodup (style : StyleGuide pool service) {message : Message}
    (reached : Reached pool service message) :
    ((pool.keptFields message).map (Naming.fieldName ·.name)).Nodup := by
  have shown : ((pool.keptFields message).map (·.name)).Sublist
      ((message.fields.filterMap id).map (·.name)) :=
    List.filter_sublist.map _
  have snake : ∀ name ∈ (pool.keptFields message).map (·.name), Words.IsSnake name.toList := by
    intro name member
    obtain ⟨field, kept, rfl⟩ := List.mem_map.mp member
    exact style.fieldNames message reached field (Pool.mem_keptFields.mp kept).1
  have distinct := (style.fieldsApart message reached).sublist shown
  have named := distinct.map_on fun first listed second listed' =>
    Naming.fieldName_injOn (snake first listed) (snake second listed')
  rwa [List.map_map] at named

theorem StyleGuide.rootNames_nodup (style : StyleGuide pool service) (kind : Operation) :
    ((rootFields (build pool service).value kind).map (·.name)).Nodup := by
  let methods := ((served pool service.methods).filter fun entry => classify entry.1.name = kind).map (·.1)
  have whole : ((served pool service.methods).map (·.1)).Sublist (service.methods.filterMap id) :=
    served_methods pool service.methods ▸ List.filter_sublist
  have listed : methods.Sublist (service.methods.filterMap id) := (List.filter_sublist.map _).trans whole
  have upper : ∀ name ∈ methods.map (·.name), Words.startsUpper name.toList = true := by
    intro name member
    obtain ⟨method, inside, rfl⟩ := List.mem_map.mp member
    exact style.methodNames method (by simpa using listed.subset inside)
  have distinct : (methods.map (·.name)).Nodup := style.methodsApart.sublist (listed.map _)
  have named := distinct.map_on fun first member second member' =>
    Naming.lowerFirst_injOn (upper first member) (upper second member')
  rw [rootFields_build]
  simpa [roots, rootField, methods, Function.comp_def] using named

/-- Where descriptors keep to the style guide, the names that their schema has for fields and methods stay
apart: what the rules for names take away can be put back. -/
theorem style_guide_keeps_apart (pool : Pool) (service : Service) (style : StyleGuide pool service) :
    FieldsApart (build pool service).value := by
  obtain ⟨types, inputs, enums, state⟩ := registered_build pool service
  refine ⟨fun type member => ?_, fun type member => ?_, style.rootNames_nodup .query,
    style.rootNames_nodup .mutation⟩
  · rw [state.types_eq] at member
    obtain ⟨message, registered, rfl⟩ := List.mem_map.mp member
    have named := style.shownNames_nodup (state.types_reached message registered)
    simpa [outputField, plainField, Function.comp_def] using named
  · rw [state.inputs_eq] at member
    obtain ⟨message, registered, rfl⟩ := List.mem_map.mp member
    have named := style.shownNames_nodup (state.inputs_reached message registered)
    simpa [inputType, plainField, Function.comp_def] using named

/-- The style guide throughout the pool is enough. -/
theorem styleGuide_of_pool
    (fieldNames : ∀ message ∈ pool.messages, ∀ field ∈ message.fields.filterMap id,
      Words.IsSnake field.name.toList)
    (fieldsApart : ∀ message ∈ pool.messages, ((message.fields.filterMap id).map (·.name)).Nodup)
    (methodNames : ∀ method ∈ service.methods.filterMap id, Words.startsUpper method.name.toList = true)
    (methodsApart : ((service.methods.filterMap id).map (·.name)).Nodup) : StyleGuide pool service where
  fieldNames message reached field listed :=
    fieldNames message reached.mem_messages field (List.mem_filterMap.mpr ⟨_, listed, rfl⟩)
  fieldsApart message reached := fieldsApart message reached.mem_messages
  methodNames method listed := methodNames method (List.mem_filterMap.mpr ⟨_, listed, rfl⟩)
  methodsApart := methodsApart

theorem style_guide_keeps_apart_shop :
    StyleGuide shopPool shopService ∧ FieldsApart (build shopPool shopService).value := by
  have style : StyleGuide shopPool shopService :=
    styleGuide_of_pool (by decide +kernel) (by decide +kernel) (by decide +kernel) (by decide +kernel)
  exact ⟨style, style_guide_keeps_apart shopPool shopService style⟩

end Subgraph.Build
