import Subgraph.Proofs.Draft.Termination

namespace Subgraph.Build

open Descriptor

/-- The name that the type of a field is built on. -/
inductive BaseName (pool : Pool) (reference : Message → String) (field : Field) : String → Prop
  | message {held : Message} (kind : field.kind = .message ∨ field.kind = .group)
      (found : pool.message? field.message = some held) : BaseName pool reference field (reference held)
  | enum {enum : Enum} (kind : field.kind = .enum) (found : pool.enum? field.enum = some enum) :
      BaseName pool reference field (Naming.typeName enum.name)
  | scalar (kind : ¬(field.kind = .message ∨ field.kind = .group))
      (missing : field.kind = .enum → pool.enum? field.enum = none) :
      BaseName pool reference field (field.kind.scalarFor (some field.name))

structure FieldImage (pool : Pool) (reference : Message → String) (field : Field) (shown : Schema.Field) :
    Prop where
  name : shown.name = Naming.fieldName field.name
  required : shown.required = !field.presence
  comment : shown.comment = Comment.clean field.comment
  type : ∃ base, BaseName pool reference field base ∧
    shown.type = TypeExpr.decorate base field.repeated shown.required

structure OptionImage (value : EnumValue) (option : Schema.EnumOption) : Prop where
  name : option.name = value.name
  comment : option.comment = s!"Value: {value.number}"

section Image

variable {pool : Pool} {field : Field}

theorem isComposite_iff {kind : Kind} : kind.isComposite = true ↔ kind = .message ∨ kind = .group := by
  cases kind <;> simp [Kind.isComposite]

theorem baseName_baseType (kept : pool.unresolved field = false) (reference : Message → String) :
    BaseName pool reference field (baseType pool reference field) := by
  cases composite : field.kind.isComposite with
  | true =>
    obtain ⟨held, holds⟩ := Pool.referred?_of_kept kept composite
    rw [baseType_of_referred holds]
    exact .message (isComposite_iff.mp composite) (by simpa [Pool.referred?, composite] using holds)
  | false =>
    have none_held : pool.referred? field = none := by simp [Pool.referred?, composite]
    cases refers : fieldEnum? pool field with
    | some enum =>
      rw [baseType_of_enum refers]
      obtain ⟨kind, found⟩ := fieldEnum?_eq_some.mp refers
      exact .enum kind found
    | none =>
      rw [baseType_of_neither none_held refers]
      refine .scalar (fun kind => ?_) fun kind => by simpa [fieldEnum?, kind] using refers
      simp [isComposite_iff.mpr kind] at composite

theorem fieldImage_plainField (kept : pool.unresolved field = false) (reference : Message → String) :
    FieldImage pool reference field (plainField pool reference field) :=
  ⟨rfl, rfl, rfl, _, baseName_baseType kept reference, rfl⟩

theorem fieldImage_outputField (kept : pool.unresolved field = false) :
    FieldImage pool objectName field (outputField pool field) := by
  obtain ⟨name, required, comment, type⟩ := fieldImage_plainField kept objectName
  exact ⟨name, required, comment, type⟩

theorem forall₂_map {α β : Type} {relation : α → β → Prop} {items : List α} {image : α → β}
    (related : ∀ item ∈ items, relation item (image item)) :
    List.Forall₂ relation items (items.map image) := by
  rw [List.forall₂_map_right_iff, List.forall₂_same]
  exact related

theorem fields_objectType (pool : Pool) (message : Message) :
    List.Forall₂ (FieldImage pool objectName) (pool.keptFields message) (objectType pool message).fields := by
  rw [objectType_fields]
  exact forall₂_map fun _ shown => fieldImage_outputField (Pool.mem_keptFields.mp shown).2

theorem fields_inputType (pool : Pool) (message : Message) :
    List.Forall₂ (FieldImage pool inputName) (pool.keptFields message) (inputType pool message).fields :=
  forall₂_map fun _ shown => fieldImage_plainField (Pool.mem_keptFields.mp shown).2 inputName

end Image

/-- Definitions have been added to the registers; those that were there are as they were. -/
structure Registers.Extends (before after : Registers) : Prop where
  entries : ∀ side, (before.on side).entries <+: (after.on side).entries
  enums : before.enums.entries <+: after.enums.entries

theorem foldl_addEnum_extends (enums : List Schema.EnumType) (met : List Enum) :
    enums <+: met.foldl addEnum enums := by
  induction met generalizing enums with
  | nil => exact List.prefix_refl _
  | cons first rest ih =>
    refine List.IsPrefix.trans ?_ (ih _)
    unfold addEnum
    split
    · exact List.prefix_refl _
    · exact List.prefix_append ..

namespace Draft

variable {side : Side} {pool : Pool} {limit : Nat} {before after : Draft}

/-- A definition may be looked up while others, or it itself, are not finished: none of them is
changed. -/
theorem resolve_extends {message : Message} {place : Nat} (consistent : before.registers.Consistent)
    (member : message ∈ pool.messages)
    (done : resolve side pool limit before message = some (after, place)) :
    before.registers.Extends after.registers := by
  obtain ⟨spot, found⟩ := List.mem_iff_getElem?.mp member
  obtain ⟨entries, follows⟩ := resolve_covers consistent (knows_self side before) found done
  refine ⟨fun other => ?_, ?_⟩
  · by_cases same : other = side
    · subst same
      rw [entries]
      exact List.prefix_append ..
    · rw [follows.others other same]
  · rw [follows.enums_eq]
    exact foldl_addEnum_extends ..

theorem resolveEnum_extends (consistent : before.registers.Consistent) (enum : Enum) :
    before.registers.Extends (before.resolveEnum enum).1.registers := by
  refine ⟨fun side => by rw [on_resolveEnum], ?_⟩
  rw [(follows_resolveEnum .output consistent enum).enums_eq]
  exact foldl_addEnum_extends ..

end Draft

/-- After any number of methods, and whenever a definition is looked up on the way, names are used once
in a register and the index leads from each of them to its definition. -/
theorem registers_stay_consistent (pool : Pool) (service : Service) (count : Nat) :
    ∃ draft, Draft.run pool (fun _ => pool.messages.length) (service.methods.take count) = some draft ∧
      draft.schema service =
        (addMethods pool service.fullName (emptySchema service) (service.methods.take count)).value ∧
      ((draft.schema service).types.map (·.name)).Nodup ∧
      ((draft.schema service).inputs.map (·.name)).Nodup ∧
      ((draft.schema service).enums.map (·.name)).Nodup ∧
      draft.registers.Consistent ∧
      ∀ call ∈ draft.calls, call.registers.Consistent := by
  obtain ⟨draft, done⟩ := Draft.run_pool pool (service.methods.take count)
  have sound := (Draft.run_advances done).sound Draft.sound_empty
  exact ⟨draft, done, Draft.schema_run done service, sound.consistent.types.distinct,
    sound.consistent.inputs.distinct, sound.consistent.enums.distinct, sound.consistent, sound.recorded⟩

/-- Each definition is the image of the first message or enum met with its name, field by field and in
order. Looking up a message or an enum never changes a definition that is registered. -/
theorem definitions_faithful (pool : Pool) (service : Service) :
    ∃ draft, Draft.run pool (fun _ => pool.messages.length) service.methods = some draft ∧
      draft.schema service = (build pool service).value ∧
      (∀ type ∈ (build pool service).value.types, ∃ message,
        (draft.met .output).find? (objectName · == type.name) = some message ∧
        ReachableFrom pool.references (outputs pool service.methods) message ∧
        List.Forall₂ (FieldImage pool objectName) (pool.keptFields message) type.fields) ∧
      (∀ input ∈ (build pool service).value.inputs, ∃ message,
        (draft.met .request).find? (inputName · == input.name) = some message ∧
        ReachableFrom pool.references (requests pool service.methods) message ∧
        List.Forall₂ (FieldImage pool inputName) (pool.keptFields message) input.fields) ∧
      (∀ type ∈ (build pool service).value.enums, ∃ enum,
        draft.enumsMet.find? (Naming.typeName ·.name == type.name) = some enum ∧
        (∃ (side : Side) (message : Message),
          ReachableFrom pool.references (side.roots pool service.methods) message ∧
          ∃ field ∈ pool.keptFields message, fieldEnum? pool field = some enum) ∧
        List.Forall₂ OptionImage enum.values type.options) ∧
      ∀ before : Draft, before.registers.Consistent →
        (∀ side limit message after place, message ∈ pool.messages →
          Draft.resolve side pool limit before message = some (after, place) →
          before.registers.Extends after.registers) ∧
        ∀ enum, before.registers.Extends (before.resolveEnum enum).1.registers := by
  obtain ⟨draft, done⟩ := Draft.run_pool pool service.methods
  have built : draft.schema service = (build pool service).value := Draft.schema_run done service
  have sound := (Draft.run_advances done).sound Draft.sound_empty
  have accounted := Draft.accounted_run done
  refine ⟨draft, done, built, ?_, ?_, ?_, fun before consistent => ⟨?_, ?_⟩⟩
  · intro type member
    rw [← built] at member
    obtain ⟨message, first, reached, image⟩ := accounted.first_met sound .output member
    exact ⟨message, first, reached, image ▸ fields_objectType pool message⟩
  · intro input member
    rw [← built] at member
    obtain ⟨message, first, reached, image⟩ := accounted.first_met sound .request member
    exact ⟨message, first, reached, image ▸ fields_inputType pool message⟩
  · intro type member
    rw [← built] at member
    obtain ⟨enum, first, refers, rfl⟩ := accounted.first_enum_met member
    exact ⟨enum, first, refers, forall₂_map fun _ _ => ⟨rfl, rfl⟩⟩
  · exact fun side limit message after place => Draft.resolve_extends consistent
  · exact Draft.resolveEnum_extends consistent

end Subgraph.Build
