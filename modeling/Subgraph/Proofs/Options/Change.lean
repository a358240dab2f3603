import Subgraph.Proofs.Entities

namespace Subgraph

open Descriptor

/-- What becomes of the options of messages and of fields. -/
structure OptionChange where
  onMessages : OptionSet → OptionSet
  onFields : OptionSet → OptionSet

namespace OptionChange

variable (change : OptionChange)

def field (field : Field) : Field :=
  { field with options := change.onFields field.options }

def message (message : Message) : Message :=
  { message with
    fields := message.fields.map (Option.map change.field)
    options := change.onMessages message.options }

def pool (pool : Pool) : Pool :=
  { pool with messages := pool.messages.map change.message }

def step : Step → Step
  | .enter message => .enter (change.message message)
  | .field field => .field (change.field field)
  | .skip field => .skip (change.field field)
  | .leave message => .leave (change.message message)

section Pool

variable (pool : Pool)

@[simp] theorem getElem?_messages (place : Nat) :
    (change.pool pool).messages[place]? = (pool.messages[place]?).map change.message :=
  List.getElem?_map ..

@[simp] theorem message?_pool (reference : Option Nat) :
    (change.pool pool).message? reference = (pool.message? reference).map change.message := by
  cases reference <;> simp [Pool.message?]

@[simp] theorem enum?_pool (reference : Option Nat) :
    (change.pool pool).enum? reference = pool.enum? reference := rfl

@[simp] theorem unresolved_field (field : Field) :
    (change.pool pool).unresolved (change.field field) = pool.unresolved field := by
  simp [Pool.unresolved, OptionChange.field]

theorem keptFields_message (message : Message) :
    (change.pool pool).keptFields (change.message message) = (pool.keptFields message).map change.field := by
  have present : (change.message message).fields.filterMap id =
      (message.fields.filterMap id).map change.field := by
    simp only [OptionChange.message, List.filterMap_map, List.map_filterMap]
    rfl
  have resolved : ((!(change.pool pool).unresolved ·) ∘ change.field) = (!pool.unresolved ·) := by
    funext field
    simp
  rw [Pool.keptFields, present, List.filter_map, resolved, Pool.keptFields]

end Pool

section Walk

variable {change} {pool : Pool} {key : Message → String}

theorem entered_map (steps : List Step) :
    Walk.entered (steps.map change.step) = (Walk.entered steps).map change.message := by
  simp only [Walk.entered, List.filterMap_map, List.map_filterMap]
  refine List.filterMap_congr fun step _ => ?_
  cases step <;> rfl

theorem shown_map (steps : List Step) :
    Walk.shown (steps.map change.step) = (Walk.shown steps).map change.field := by
  simp only [Walk.shown, List.filterMap_map, List.map_filterMap]
  refine List.filterMap_congr fun step _ => ?_
  cases step <;> rfl

/-- The walks before and after the change take the same steps, if the change keeps the keys. -/
theorem visit_both (keeps : ∀ message, key (change.message message) = key message) :
    (∀ seen place message, pool.messages[place]? = some message →
      Walk.visit (change.pool pool) key seen place = (Walk.visit pool key seen place).map change.step) ∧
    ∀ seen fields, Walk.visitFields (change.pool pool) key seen (fields.map (Option.map change.field)) =
      (Walk.visitFields pool key seen fields).map change.step := by
  have changed : ∀ {place : Nat} {message}, pool.messages[place]? = some message →
      (change.pool pool).messages[place]? = some (change.message message) := by
    intro place message found
    rw [getElem?_messages, found, Option.map_some]
  apply Walk.induction_on pool key
  · intro seen place message found old
    rw [Walk.visit_known found old, Walk.visit_known (changed found) (by rwa [keeps])]
    rfl
  · intro seen place message found new walked
    rw [Walk.visit_fresh found new, Walk.visit_fresh (changed found) (by rwa [keeps]), keeps]
    simp only [List.map_append, List.map_cons, ← walked]
    rfl
  · intro seen
    simp
  · intro seen rest walked
    simpa using walked
  · intro seen field rest missing walked
    rw [Walk.visitFields_unresolved missing, List.map_cons, List.map_cons, ← walked]
    exact Walk.visitFields_unresolved (by simpa using missing) ..
  · intro seen field rest resolved visited walked
    have below : Walk.below (change.pool pool) key seen (change.field field) =
        (Walk.below pool key seen field).map change.step := by
      unfold Walk.below
      cases composite : field.kind.isComposite with
      | false => simp [OptionChange.field, composite]
      | true =>
        cases reference : field.message with
        | none => simp [OptionChange.field, composite, reference]
        | some place =>
          simp only [OptionChange.field, composite, reference]
          cases found : pool.messages[place]? with
          | none => rw [Walk.visit_missing found, Walk.visit_missing (by simp [found]), List.map_nil]
          | some message => exact visited place message found
    have keys : (Walk.entered ((Walk.below pool key seen field).map change.step)).map key =
        (Walk.entered (Walk.below pool key seen field)).map key := by
      rw [entered_map, List.map_map]
      exact List.map_congr_left fun message _ => keeps message
    rw [Walk.visitFields_kept resolved, List.map_cons, Option.map_some,
      Walk.visitFields_kept (by simpa using resolved), below, keys, walked, List.map_append, List.map_cons]
    rfl

theorem visit_pool (pool : Pool) (keeps : ∀ message, key (change.message message) = key message)
    (seen : List String) (place : Nat) :
    Walk.visit (change.pool pool) key seen place = (Walk.visit pool key seen place).map change.step := by
  cases found : pool.messages[place]? with
  | none => rw [Walk.visit_missing found, Walk.visit_missing (by simp [found]), List.map_nil]
  | some message => exact (visit_both keeps).1 seen place message found

end Walk

section Definitions

variable (pool : Pool)

theorem baseType_field {reference : Message → String}
    (keeps : ∀ message, reference (change.message message) = reference message) (field : Field) :
    Build.baseType (change.pool pool) reference (change.field field) = Build.baseType pool reference field := by
  unfold Build.baseType
  simp only [OptionChange.field, message?_pool, enum?_pool]
  cases pool.message? field.message with
  | none => rfl
  | some message =>
    cases field.kind.isComposite with
    | true => exact keeps message
    | false => rfl

/-- A field looks the same but for what its options say. -/
theorem plainField_field {reference : Message → String}
    (keeps : ∀ message, reference (change.message message) = reference message) (field : Field) :
    Build.plainField (change.pool pool) reference (change.field field) =
      Build.plainField pool reference field := by
  rw [Build.plainField, change.baseType_field pool keeps, Build.plainField]
  rfl

theorem map_plainField {reference : Message → String}
    (keeps : ∀ message, reference (change.message message) = reference message) (message : Message) :
    ((change.pool pool).keptFields (change.message message)).map
        (Build.plainField (change.pool pool) reference) =
      (pool.keptFields message).map (Build.plainField pool reference) := by
  rw [keptFields_message, List.map_map]
  exact List.map_congr_left fun field _ => change.plainField_field pool keeps field

theorem inputType_message (message : Message) :
    Build.inputType (change.pool pool) (change.message message) = Build.inputType pool message := by
  have fields : List.map (Build.plainField (change.pool pool) Build.inputName) _ = _ :=
    change.map_plainField pool (fun _ => rfl) message
  rw [Build.inputType, fields, Build.inputType]
  rfl

theorem addEnums_map (enums : List Schema.EnumType) (steps : List Step) :
    Build.addEnums (change.pool pool) enums (steps.map change.step) = Build.addEnums pool enums steps := by
  rw [Build.addEnums_eq, Build.addEnums_eq, Build.enumsMet, Build.enumsMet, shown_map, List.filterMap_map]
  rfl

theorem output?_pool (method : Method) :
    Build.output? (change.pool pool) method =
      (Build.output? pool method).map fun (place, message) => (place, change.message message) := by
  unfold Build.output?
  cases method.output with
  | none => rfl
  | some place => cases found : pool.messages[place]? <;> simp [found]

theorem request?_pool (method : Method) :
    Build.request? (change.pool pool) method =
      (Build.request? pool method).map fun (place, message) => (place, change.message message) := by
  unfold Build.request?
  cases method.input with
  | none => rfl
  | some place =>
    cases found : pool.messages[place]? with
    | none => simp [found]
    | some message =>
      have same : (change.message message).fields.isEmpty = message.fields.isEmpty := by
        simp [OptionChange.message]
      simp only [getElem?_messages, found, Option.map_some, Option.bind_eq_bind, Option.bind_some, same]
      split <;> rfl

theorem rootField_pool (method : Method) (output : Message) :
    Build.rootField (change.pool pool) method (change.message output) = Build.rootField pool method output := by
  simp only [Build.rootField, request?_pool]
  cases Build.request? pool method <;> rfl

end Definitions

end OptionChange

/-- Two schemas are equal, as far as `view` tells their object types apart. -/
structure Schema.AgreeUnder (view : Schema.ObjectType → Schema.ObjectType) (first second : Schema) : Prop where
  service : first.service = second.service
  source : first.source = second.source
  comment : first.comment = second.comment
  query : first.query = second.query
  mutation : first.mutation = second.mutation
  types : first.types.map view = second.types.map view
  inputs : first.inputs = second.inputs
  enums : first.enums = second.enums

namespace Schema.AgreeUnder

variable {view : Schema.ObjectType → Schema.ObjectType} {first second third : Schema}

theorem refl (schema : Schema) : schema.AgreeUnder view schema :=
  ⟨rfl, rfl, rfl, rfl, rfl, rfl, rfl, rfl⟩

theorem symm (agree : first.AgreeUnder view second) : second.AgreeUnder view first :=
  ⟨agree.service.symm, agree.source.symm, agree.comment.symm, agree.query.symm, agree.mutation.symm,
    agree.types.symm, agree.inputs.symm, agree.enums.symm⟩

theorem trans (agree : first.AgreeUnder view second) (next : second.AgreeUnder view third) :
    first.AgreeUnder view third :=
  ⟨agree.service.trans next.service, agree.source.trans next.source, agree.comment.trans next.comment,
    agree.query.trans next.query, agree.mutation.trans next.mutation, agree.types.trans next.types,
    agree.inputs.trans next.inputs, agree.enums.trans next.enums⟩

/-- Nothing is hidden by the identity. -/
theorem eq (agree : first.AgreeUnder id second) : first = second := by
  obtain ⟨service, source, comment, query, mutation, types, inputs, enums⟩ := agree
  rw [List.map_id, List.map_id] at types
  cases first
  cases second
  subst service source comment query mutation types inputs enums
  rfl

end Schema.AgreeUnder

namespace Build

section Agree

variable {change : OptionChange} {pool : Pool} {view : Schema.ObjectType → Schema.ObjectType}
  {first second : Schema}

theorem addInput_agree (agree : first.AgreeUnder view second) (place : Nat) :
    (addInput (change.pool pool) first place).value.AgreeUnder view (addInput pool second place).value := by
  have steps : Walk.visit (change.pool pool) inputName (second.inputs.map (·.name)) place = _ :=
    OptionChange.visit_pool pool (fun _ => rfl) ..
  refine { agree with inputs := ?_, enums := ?_ }
  · simp only [addInput, agree.inputs, steps, OptionChange.entered_map, List.map_map]
    refine congrArg (second.inputs ++ ·) (List.map_congr_left fun message _ => ?_)
    exact change.inputType_message pool message
  · simp only [addInput, agree.inputs, agree.enums, steps, OptionChange.addEnums_map]

theorem addRootField_agree (agree : first.AgreeUnder view second) (operation : Operation)
    (field : Schema.Field) :
    (addRootField first operation field).AgreeUnder view (addRootField second operation field) := by
  cases operation with
  | query => exact { agree with query := congrArg (· ++ [field]) agree.query }
  | mutation => exact { agree with mutation := congrArg (· ++ [field]) agree.mutation }

variable (names : ∀ type, (view type).name = type.name)
  (objects : ∀ message, view (objectType (change.pool pool) (change.message message)) =
    view (objectType pool message))

include names objects

theorem addOutput_agree (agree : first.AgreeUnder view second) (place : Nat) :
    (addOutput (change.pool pool) first place).value.AgreeUnder view (addOutput pool second place).value := by
  have known : first.types.map (·.name) = second.types.map (·.name) := by
    have viewed := congrArg (List.map (·.name)) agree.types
    simpa only [List.map_map, Function.comp_def, names] using viewed
  have steps : Walk.visit (change.pool pool) objectName (second.types.map (·.name)) place = _ :=
    OptionChange.visit_pool pool (fun _ => rfl) ..
  refine { agree with types := ?_, enums := ?_ }
  · simp only [addOutput, known, steps, OptionChange.entered_map, List.map_append, List.map_map, agree.types]
    exact congrArg (second.types.map view ++ ·) (List.map_congr_left fun message _ => objects message)
  · simp only [addOutput, known, agree.enums, steps, OptionChange.addEnums_map]

theorem addMethod_agree (agree : first.AgreeUnder view second) (method : Method) :
    (addMethod (change.pool pool) first method).value.AgreeUnder view
      (addMethod pool second method).value := by
  have output := change.output?_pool pool method
  cases resolved : output? pool method with
  | none =>
    rw [resolved, Option.map_none] at output
    rw [addMethod_value_unresolved resolved, addMethod_value_unresolved output]
    exact agree
  | some entry =>
    rw [resolved, Option.map_some] at output
    have walked := addOutput_agree names objects agree entry.1
    rw [addMethod_value_resolved resolved, addMethod_value_resolved output, change.rootField_pool,
      change.request?_pool]
    refine addRootField_agree ?_ ..
    cases request? pool method with
    | none => exact walked
    | some taken => exact addInput_agree walked taken.1

theorem addMethods_agree (agree : first.AgreeUnder view second) (service : String)
    (methods : List (Option Method)) :
    (addMethods (change.pool pool) service first methods).value.AgreeUnder view
      (addMethods pool service second methods).value := by
  induction methods generalizing first second with
  | nil => exact agree
  | cons method? rest ih =>
    cases method? with
    | none => exact ih agree
    | some method => exact ih (addMethod_agree names objects agree method)

/-- A change of options is seen in a schema only where it is seen in an object type. -/
theorem build_agree (service : Service) :
    (build (change.pool pool) service).value.AgreeUnder view (build pool service).value :=
  addMethods_agree names objects (.refl _) service.fullName service.methods

end Agree

end Build

end Subgraph
