import Subgraph.Proofs.Registration

namespace Subgraph

open Descriptor Federation

namespace Federation

/-- A readable key option says whether the field is a key; without one the name does. -/
def ResolvesAsKey (field : Field) : Prop :=
  field.options.bool? OptionSet.keyOption = .ok (some true) ∨
    (∀ value, field.options.bool? OptionSet.keyOption ≠ .ok (some value)) ∧
      Naming.isKeyName field.name = true

/-- The decision of a readable option, or of the name. -/
theorem resolve_holds (options : OptionSet) (number : Nat) (subject : Subject) (byName : Logged Bool) :
    (resolve options number subject byName).value.holds = true ↔
      options.bool? number = .ok (some true) ∨
        (∀ value, options.bool? number ≠ .ok (some value)) ∧ byName.value = true := by
  unfold resolve
  cases read : options.bool? number with
  | error fault => simp [Resolution.holds]
  | ok value? =>
    cases value? with
    | none => simp [Resolution.holds]
    | some value => simp [Resolution.holds]

theorem isKey_iff (field : Field) : Build.isKey field = true ↔ ResolvesAsKey field := by
  rw [Build.isKey, resolveKey, resolve_holds, ResolvesAsKey]
  by_cases named : Naming.isKeyName field.name = true
  · simp [named]
  · simp [named]

theorem resolveEntity_holds (message : Message) (hasKey : Option Bool) :
    (resolveEntity message hasKey).value.holds = true ↔
      message.options.bool? OptionSet.entityOption = .ok (some true) ∨
        (∀ value, message.options.bool? OptionSet.entityOption ≠ .ok (some value)) ∧
          (message.name ∈ entityNames ∨
            hasKey.getD (findKeyField message).value.isSome = true) := by
  unfold resolveEntity
  rw [resolve_holds]
  by_cases listed : message.name ∈ entityNames
  · simp [listed]
  · cases hasKey <;> simp [listed]

/-- Once a key is known, only a readable option can keep a message from being an entity. -/
theorem resolveEntity_holds_of_key {message : Message} {hasKey : Option Bool}
    (known : hasKey.getD (findKeyField message).value.isSome = true) :
    (resolveEntity message hasKey).value.holds = true ↔
      message.options.bool? OptionSet.entityOption ≠ .ok (some false) := by
  rw [resolveEntity_holds]
  cases message.options.bool? OptionSet.entityOption with
  | error fault => simp [known]
  | ok value? =>
    cases value? with
    | none => simp [known]
    | some value => cases value <;> simp

theorem keyFieldAmong_value (fields : List (Option Field)) :
    (keyFieldAmong fields).value = (fields.filterMap id).find? Build.isKey := by
  induction fields with
  | nil => rfl
  | cons field? rest ih =>
    cases field? with
    | none => exact ih
    | some field =>
      simp only [keyFieldAmong, Logged.value_bind]
      cases key : (resolveKey field).value.holds with
      | true => simp [Build.isKey, key]
      | false => simpa [Build.isKey, key] using ih

/-- Where no field is skipped, the first key of all fields is the first key shown. -/
theorem findKeyField_value {pool : Pool} {message : Message}
    (resolved : ∀ field, some field ∈ message.fields → pool.unresolved field = false) :
    (findKeyField message).value = Build.shownKey? pool message := by
  have all : pool.keptFields message = message.fields.filterMap id := by
    refine List.filter_eq_self.mpr fun field member => ?_
    have declared : some field ∈ message.fields := by simpa using member
    simp [resolved field declared]
  rw [findKeyField, keyFieldAmong_value, Build.shownKey?, all]

end Federation

namespace Build

/-- The type is the one that the message makes, with its place in the federation: an entity if it
shows a key and no readable option denies it, found by the first key that it shows. -/
structure Classified (pool : Pool) (message : Message) (type : Schema.ObjectType) : Prop where
  name_eq : type.name = objectName message
  federated_iff : type.federated = true ↔
    (∃ field ∈ pool.keptFields message, ResolvesAsKey field) ∧
      message.options.bool? OptionSet.entityOption ≠ .ok (some false)
  first_key : type.federated = true → ∃ before key after,
    pool.keptFields message = before ++ key :: after ∧ ResolvesAsKey key ∧
      (∀ field ∈ before, ¬ResolvesAsKey field) ∧ type.keyField = Naming.fieldName key.name
  no_key : type.federated = false → type.keyField = ""
  agrees : (∀ field, some field ∈ message.fields → pool.unresolved field = false) →
    type.federated =
      ((findKeyField message).value.isSome && (resolveEntity message none).value.holds) ∧
    (type.federated = true →
      ∃ key, (findKeyField message).value = some key ∧ type.keyField = Naming.fieldName key.name)

theorem entity_value (pool : Pool) (message : Message) :
    (entity pool message).value =
      (resolveEntity message (some (shownKey? pool message).isSome)).value.holds := by
  unfold entity
  simp only [Logged.value_bind]
  split <;> rfl

theorem objectType_without_key {pool : Pool} {message : Message}
    (none_shown : shownKey? pool message = none) :
    (objectType pool message).federated = false ∧ (objectType pool message).keyField = "" := by
  simp [objectType, none_shown]

theorem objectType_with_key {pool : Pool} {message : Message} {key : Field}
    (shown : shownKey? pool message = some key) :
    (objectType pool message).federated =
        (resolveEntity message (some true)).value.holds ∧
      (objectType pool message).keyField =
        if (objectType pool message).federated then Naming.fieldName key.name else "" := by
  have decided : (entity pool message).value = (resolveEntity message (some true)).value.holds := by
    simp [entity_value, shown]
  cases holds : (resolveEntity message (some true)).value.holds <;>
    simp [objectType, shown, decided, holds]

theorem shownKey?_eq_none {pool : Pool} {message : Message} :
    shownKey? pool message = none ↔ ¬∃ field ∈ pool.keptFields message, ResolvesAsKey field := by
  simp [shownKey?, ← isKey_iff]

theorem shownKey?_eq_some {pool : Pool} {message : Message} {key : Field}
    (shown : shownKey? pool message = some key) :
    ∃ before after, pool.keptFields message = before ++ key :: after ∧ ResolvesAsKey key ∧
      ∀ field ∈ before, ¬ResolvesAsKey field := by
  obtain ⟨holds, before, after, split, others⟩ := List.find?_eq_some_iff_append.mp shown
  refine ⟨before, after, split, (isKey_iff key).mp holds, fun field member resolves => ?_⟩
  simpa [(isKey_iff field).mpr resolves] using others field member

theorem classified_objectType (pool : Pool) (message : Message) :
    Classified pool message (objectType pool message) := by
  cases shown : shownKey? pool message with
  | none =>
    obtain ⟨plain, keyless⟩ := objectType_without_key shown
    refine ⟨objectType_name .., ?_, by simp [plain], fun _ => keyless, fun resolved => ?_⟩
    · simp [plain, shownKey?_eq_none.mp shown]
    · simp [plain, findKeyField_value resolved, shown]
  | some key =>
    obtain ⟨federated, keyField⟩ := objectType_with_key shown
    obtain ⟨before, after, split, resolves, others⟩ := shownKey?_eq_some shown
    have member : key ∈ pool.keptFields message := by simp [split]
    have entity_iff : (resolveEntity message (some true)).value.holds = true ↔
        message.options.bool? OptionSet.entityOption ≠ .ok (some false) :=
      resolveEntity_holds_of_key rfl
    refine ⟨objectType_name .., ?_, fun holds => ?_, fun fails => ?_, fun resolved => ⟨?_, fun holds => ?_⟩⟩
    · rw [federated, entity_iff]
      exact ⟨fun allowed => ⟨⟨key, member, resolves⟩, allowed⟩, And.right⟩
    · exact ⟨before, key, after, split, resolves, others, by rw [keyField, if_pos holds]⟩
    · rw [keyField, fails]
      rfl
    · have found : (findKeyField message).value = some key := findKeyField_value resolved ▸ shown
      rw [federated, found, Option.isSome_some, Bool.true_and, Bool.eq_iff_iff, entity_iff,
        resolveEntity_holds_of_key (by simp [found])]
    · exact ⟨key, findKeyField_value resolved ▸ shown, by rw [keyField, if_pos holds]⟩

/-- Every object type of a schema is classified by the fields and options of the message that it was
made from. -/
theorem federation_classified (pool : Pool) (service : Service) :
    ∃ messages, Preorder pool.references objectName [] (outputs pool service.methods) messages ∧
      List.Forall₂ (Classified pool) messages (build pool service).value.types := by
  obtain ⟨types, inputs, enums, state⟩ := registered_build pool service
  refine ⟨types, state.typeOrder, ?_⟩
  rw [state.types_eq, List.forall₂_map_right_iff]
  exact List.forall₂_same.mpr fun message _ => classified_objectType pool message

end Build

end Subgraph
