import Subgraph.Proofs.Options.Change

namespace Subgraph

open Descriptor

/-- Takes all options out of messages and fields. -/
def OptionChange.clear : OptionChange where
  onMessages _ := {}
  onFields _ := {}

namespace Schema

/-- A field without what options may say of it. -/
def Field.withoutFederation (field : Field) : Field :=
  { field with key := false, external := false, requires := none, computedFrom := none }

/-- An object type without its place in the federation and without that of its fields. -/
def ObjectType.withoutFederation (type : ObjectType) : ObjectType :=
  { type with
    fields := type.fields.map Field.withoutFederation
    federated := false
    keyField := "" }

end Schema

namespace Build

variable (pool : Pool)

theorem objectType_withoutFederation (message : Message) :
    (objectType pool message).withoutFederation =
      { name := objectName message
        fields := (pool.keptFields message).map (plainField pool objectName)
        comment := Comment.clean message.comment } := by
  rw [Schema.ObjectType.withoutFederation, objectType_name, objectType_fields, objectType_comment,
    List.map_map]
  rfl

/-- Whatever is done to the options, the object types differ only in what they take from them. -/
theorem withoutFederation_message (change : OptionChange) (message : Message) :
    (objectType (change.pool pool) (change.message message)).withoutFederation =
      (objectType pool message).withoutFederation := by
  have fields : List.map (plainField (change.pool pool) objectName) _ = _ :=
    change.map_plainField pool (fun _ => rfl) message
  rw [objectType_withoutFederation, fields, objectType_withoutFederation]
  rfl

theorem build_clear (service : Service) :
    (build (OptionChange.clear.pool pool) service).value.AgreeUnder Schema.ObjectType.withoutFederation
      (build pool service).value := by
  have names : ∀ type : Schema.ObjectType, type.withoutFederation.name = type.name := fun _ => rfl
  exact build_agree names (withoutFederation_message pool .clear) service

/-- Pools that are equal but for their options give schemas that are equal but for the place of types
and fields in the federation. -/
theorem options_only_federate {first second : Pool}
    (same : OptionChange.clear.pool first = OptionChange.clear.pool second) (service : Service) :
    (build first service).value.AgreeUnder Schema.ObjectType.withoutFederation
      (build second service).value := by
  have cleared := (build_clear first service).symm
  rw [same] at cleared
  exact cleared.trans (build_clear second service)

/-- The shop with all of its fields marked as keys of other subgraphs. -/
def markedShop : Pool :=
  OptionChange.pool
    { onMessages := id
      onFields := fun _ => ⟨[⟨OptionSet.keyOption, .varint 1⟩, ⟨OptionSet.externalOption, .varint 1⟩]⟩ }
    shopPool

theorem options_only_federate_shop :
    markedShop ≠ shopPool ∧ OptionChange.clear.pool markedShop = OptionChange.clear.pool shopPool ∧
      (build markedShop shopService).value.AgreeUnder Schema.ObjectType.withoutFederation
        (build shopPool shopService).value := by
  have same : OptionChange.clear.pool markedShop = OptionChange.clear.pool shopPool := by decide
  exact ⟨by decide, same, options_only_federate same shopService⟩

end Build

end Subgraph
