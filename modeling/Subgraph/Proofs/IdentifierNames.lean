import Subgraph.Proofs.Entities
import Subgraph.Proofs.NameForms
import Subgraph.Proofs.Sdl.Imports
import Subgraph.Template.Helper

namespace Subgraph

namespace Words

open Text

/-- What may follow the stem of a name that stands for an identifier. -/
def idEndings : List (List Char) :=
  [['_', 'i', 'd'], ['I', 'd']]

/-- The shapes of names that stand for identifiers: `id` in any case, or a stem and an ending. -/
inductive IdShape : List Char → Prop
  | whole {name : List Char} (lowered : lower name = ['i', 'd']) : IdShape name
  | ended {stem ending : List Char} (filled : stem ≠ []) (listed : ending ∈ idEndings) :
      IdShape (stem ++ ending)

theorem mem_idEndings {ending : List Char} :
    ending ∈ idEndings ↔ ending = ['_', 'i', 'd'] ∨ ending = ['I', 'd'] := by
  simp [idEndings]

/-- Both endings come to the same in camel case, whatever underscores stand before them. -/
theorem capitalise_idEnding {ending : List Char} (listed : ending ∈ idEndings) (run : Nat) :
    capitalise run ending = ['I', 'd'] := by
  rcases mem_idEndings.mp listed with rfl | rfl
  · simp [capitalise]
  · cases run with
    | zero => rfl
    | succ run => simp [capitalise]

/-- An ending stays at the end of the name. -/
theorem capitalise_append_idEnding {ending : List Char} (listed : ending ∈ idEndings) (run : Nat)
    (text : List Char) : ∃ front, capitalise run (text ++ ending) = front ++ ['I', 'd'] := by
  induction text generalizing run with
  | nil => exact ⟨[], capitalise_idEnding listed run⟩
  | cons c text ih =>
    rw [List.cons_append, capitalise]
    split
    · exact ih (run + 1)
    · obtain ⟨front, settled⟩ := ih 0
      rw [settled]
      split
      · exact ⟨c.toUpper :: front, rfl⟩
      · exact ⟨List.replicate run '_' ++ c :: front, by simp⟩

theorem guardDigit_append (c : Char) (rest more : List Char) :
    guardDigit (c :: rest ++ more) = guardDigit (c :: rest) ++ more := by
  rw [List.cons_append, guardDigit, guardDigit]
  split <;> rfl

/-- Underscores in front of an ending go with that of the ending. -/
theorem dropEnds_underscores {stem ending : List Char} (underscores : ∀ c ∈ stem, c = '_')
    (listed : ending ∈ idEndings) :
    ∃ first : Char, dropEnds (· == '_') (stem ++ ending) = [first, 'd'] ∧ first.toLower = 'i' := by
  have front : (stem ++ ending).dropWhile (· == '_') = ending.dropWhile (· == '_') :=
    List.dropWhile_append_of_pos fun c member => by simpa using underscores c member
  rw [dropEnds, front]
  rcases mem_idEndings.mp listed with rfl | rfl
  · exact ⟨'i', rfl, rfl⟩
  · exact ⟨'I', rfl, rfl⟩

/-- A stem with another character in it shields the ending. -/
theorem dropEnds_append_idEnding {stem ending rest : List Char} {c : Char}
    (left : stem.dropWhile (· == '_') = c :: rest) (listed : ending ∈ idEndings) :
    dropEnds (· == '_') (stem ++ ending) = c :: (rest ++ ending) := by
  have front : (stem ++ ending).dropWhile (· == '_') = c :: rest ++ ending := by
    rw [List.dropWhile_append, left]
    rfl
  obtain ⟨initial, rfl⟩ : ∃ initial, ending = initial ++ ['d'] := by
    rcases mem_idEndings.mp listed with rfl | rfl
    · exact ⟨['_', 'i'], rfl⟩
    · exact ⟨['I'], rfl⟩
  rw [dropEnds, front, ← List.append_assoc, dropEndWhile_append_false (by decide)]
  simp

theorem idShape_fieldName_ended {stem ending : List Char}
    (allowed : ∀ c ∈ stem ++ ending, isNameChar c = true) (listed : ending ∈ idEndings) :
    IdShape (fieldName (stem ++ ending)) := by
  cases left : stem.dropWhile (· == '_') with
  | nil =>
    have underscores : ∀ c ∈ stem, c = '_' := by simpa using left
    obtain ⟨first, bare, lowered⟩ := dropEnds_underscores underscores listed
    obtain ⟨-, -, named⟩ := fieldName_of_dropEnds allowed bare
    rw [named, lowered]
    exact .whole (by decide)
  | cons c rest =>
    obtain ⟨-, -, named⟩ := fieldName_of_dropEnds allowed (dropEnds_append_idEnding left listed)
    obtain ⟨front, settled⟩ := capitalise_append_idEnding listed 0 rest
    rw [named, settled, ← List.cons_append, guardDigit_append]
    refine .ended ?_ (by decide)
    exact List.ne_nil_of_mem (mem_guardDigit_of_mem List.mem_cons_self)

theorem idShape_fieldName_whole {name : List Char} (allowed : ∀ c ∈ name, isNameChar c = true)
    (lowered : lower name = ['i', 'd']) : IdShape (fieldName name) := by
  have ascii : ∀ c ∈ name, c.toNat < 128 := fun c member => isNameChar_ascii (allowed c member)
  rw [lower, lowerFrom_ascii ascii] at lowered
  have alphanum : ∀ c ∈ name, c.isAlphanum = true := by
    intro c member
    refine isAlphanum_of_isNameChar (allowed c member) ?_
    rintro rfl
    have kept : '_'.toLower ∈ name.map Char.toLower := List.mem_map_of_mem member
    rw [lowered] at kept
    exact absurd kept (by decide)
  obtain ⟨c, rest, rfl, first, others⟩ := List.map_eq_cons_iff.mp lowered
  obtain ⟨-, -, named⟩ := fieldName_of_dropEnds allowed (dropEnds_alphanum alphanum)
  rw [named, first, capitalise_alphanum fun d later => alphanum d (List.mem_cons_of_mem _ later)]
  have small : ∀ d ∈ 'i' :: rest, d.toNat < 128 :=
    List.forall_mem_cons.mpr ⟨by decide, fun d later => ascii d (List.mem_cons_of_mem _ later)⟩
  have settled : lower ('i' :: rest) = ['i', 'd'] := by
    rw [lower, lowerFrom_ascii small, List.map_cons, others]
    rfl
  exact .whole settled

/-- A name that stands for an identifier still does as the name of a field. -/
theorem IdShape.fieldName {name : List Char} (shaped : IdShape name)
    (allowed : ∀ c ∈ name, isNameChar c = true) : IdShape (fieldName name) := by
  cases shaped with
  | whole lowered => exact idShape_fieldName_whole allowed lowered
  | ended filled listed => exact idShape_fieldName_ended allowed listed

end Words

namespace Naming

open Text

/-- A text ends in another one and is longer if something stands before it. -/
theorem endsWith_longer_iff {ending name : String} :
    endsWith ending name = true ∧ ending.length < name.length ↔
      ∃ stem, stem ≠ [] ∧ stem ++ ending.toList = name.toList := by
  rw [endsWith, List.isSuffixOf_iff_suffix, ← String.length_toList, ← String.length_toList]
  constructor
  · rintro ⟨⟨stem, whole⟩, longer⟩
    refine ⟨stem, ?_, whole⟩
    rintro rfl
    rw [← whole] at longer
    exact absurd longer (Nat.lt_irrefl _)
  · rintro ⟨stem, filled, whole⟩
    refine ⟨⟨stem, whole⟩, ?_⟩
    have longer : 0 < stem.length := List.length_pos_iff.mpr filled
    rw [← whole, List.length_append]
    omega

theorem isKeyName_iff {name : String} :
    isKeyName name = true ↔
      ∃ stem ending, stem ≠ [] ∧ ending ∈ Words.idEndings ∧ stem ++ ending = name.toList := by
  have snake : endsWith "_id" name = true ∧ 3 < name.length ↔
      ∃ stem, stem ≠ [] ∧ stem ++ ['_', 'i', 'd'] = name.toList := endsWith_longer_iff
  have camel : endsWith "Id" name = true ∧ 2 < name.length ↔
      ∃ stem, stem ≠ [] ∧ stem ++ ['I', 'd'] = name.toList := endsWith_longer_iff
  simp only [isKeyName, Bool.or_eq_true, Bool.and_eq_true, decide_eq_true_eq, snake, camel,
    Words.mem_idEndings]
  constructor
  · rintro (⟨stem, filled, whole⟩ | ⟨stem, filled, whole⟩)
    · exact ⟨stem, _, filled, .inl rfl, whole⟩
    · exact ⟨stem, _, filled, .inr rfl, whole⟩
  · rintro ⟨stem, ending, filled, rfl | rfl, whole⟩
    · exact .inl ⟨stem, filled, whole⟩
    · exact .inr ⟨stem, filled, whole⟩

theorem isIdName_iff {name : String} : isIdName name = true ↔ Words.IdShape name.toList := by
  rw [isIdName, Bool.or_eq_true, beq_iff_eq, isKeyName_iff]
  constructor
  · rintro (lowered | ⟨stem, ending, filled, listed, whole⟩)
    · exact .whole lowered
    · rw [← whole]
      exact .ended filled listed
  · generalize shape : name.toList = chars
    rintro (lowered | ⟨filled, listed⟩)
    · exact .inl lowered
    · exact .inr ⟨_, _, filled, listed, rfl⟩

theorem isIdName_fieldName {name : String} (named : Words.IsName name.toList)
    (shaped : isIdName name = true) : isIdName (fieldName name) = true := by
  rw [isIdName_iff] at shaped ⊢
  rw [toList_fieldName]
  exact shaped.fieldName named.2.2

end Naming

namespace Build

open Descriptor

/-- A template that asks for the field that identifies the type is told one of its fields: a key, or one that
is named like an identifier. -/
def IdFound (type : Schema.ObjectType) : Prop :=
  ∃ shown ∈ type.fields, shown.name ≠ "" ∧ (shown.key = true ∨ Naming.isIdName shown.name = true) ∧
    Template.callHelper "id_field_name" [.object type] = .ok (.text shown.name)

theorem identifyingName_eq {fields : List Schema.Field} {shown : Schema.Field} (listed : shown ∈ fields)
    (shaped : Naming.isIdName shown.name = true) :
    ∃ first ∈ fields, Naming.isIdName first.name = true ∧ Schema.identifyingName fields = first.name := by
  rw [Schema.identifyingName]
  cases found : fields.find? (Naming.isIdName ·.name) with
  | none => exact absurd shaped (List.find?_eq_none.mp found shown listed)
  | some first =>
    have first_shaped := List.find?_some found
    exact ⟨first, List.mem_of_find?_eq_some found, first_shaped, rfl⟩

/-- The key of a type, where it has one, is among the fields that it shows. -/
theorem exists_key_of_keyField {pool : Pool} {message : Message}
    (keyed : (objectType pool message).keyField ≠ "") :
    ∃ shown ∈ (objectType pool message).fields,
      shown.key = true ∧ shown.name = (objectType pool message).keyField := by
  have classified := classified_objectType pool message
  have federated : (objectType pool message).federated = true := by
    rw [← Bool.not_eq_false]
    exact fun plain => keyed (classified.no_key plain)
  obtain ⟨before, key, after, split, resolves, -, named⟩ := classified.first_key federated
  refine ⟨outputField pool key, ?_, (Federation.isKey_iff key).mpr resolves, named.symm⟩
  rw [objectType_fields, split]
  exact List.mem_map_of_mem (by simp)

theorem idFound_objectType {pool : Pool} {message : Message} {shown : Schema.Field}
    (listed : shown ∈ (objectType pool message).fields) (shaped : Naming.isIdName shown.name = true) :
    IdFound (objectType pool message) := by
  have told : Template.callHelper "id_field_name" [.object (objectType pool message)] =
      .ok (.text (objectType pool message).idField) := rfl
  by_cases keyless : (objectType pool message).keyField = ""
  · obtain ⟨first, first_listed, first_shaped, named⟩ := identifyingName_eq listed shaped
    have filled : first.name ≠ "" := by
      intro empty
      rw [empty] at first_shaped
      exact absurd first_shaped (by decide)
    refine ⟨first, first_listed, filled, .inr first_shaped, ?_⟩
    rw [told, Schema.ObjectType.idField, if_pos (by simp [keyless]), named]
  · obtain ⟨key, key_listed, is_key, named⟩ := exists_key_of_keyField keyless
    refine ⟨key, key_listed, named ▸ keyless, .inl is_key, ?_⟩
    rw [told, Schema.ObjectType.idField, if_neg (by simpa using keyless), named]

/-- A string becomes an identifier by its name alone. -/
theorem isIdName_of_baseName {pool : Pool} {field : Field} (kind : field.kind = .string)
    (mapped : TypeExpr.baseName (outputField pool field).type = "ID") : Naming.isIdName field.name = true := by
  by_contra plain
  have base : baseType pool objectName field = "String" := by
    simp [baseType, kind, Kind.isComposite, Kind.scalarFor, Kind.scalar, plain]
  have allowed : ∀ c ∈ "String".toList, Words.isNameChar c = true := List.all_eq_true.mp (by decide)
  have shown : (outputField pool field).type = TypeExpr.decorate "String" field.repeated field.required := by
    rw [← base]
    rfl
  rw [shown, TypeExpr.baseName_decorate allowed] at mapped
  exact absurd mapped (by decide)

/-- A field that is an identifier by the name it was declared with is one by the name that the schema gives it.
So for every type of a schema in which a string became an identifier, templates find a field that identifies
the type. -/
theorem identifiers_found :
    (∀ name, Naming.isIdName name = true ↔ Words.IdShape name.toList) ∧
    (∀ name, Words.IsName name.toList → Naming.isIdName name = true →
      Naming.isIdName (Naming.fieldName name) = true) ∧
    ∀ pool service, ∃ messages, Preorder pool.references objectName [] (outputs pool service.methods) messages ∧
      (build pool service).value.types = messages.map (objectType pool) ∧
      ∀ message ∈ messages, ∀ field ∈ pool.keptFields message, Words.IsName field.name.toList →
        field.kind = .string → TypeExpr.baseName (outputField pool field).type = "ID" →
        IdFound (objectType pool message) := by
  refine ⟨fun name => Naming.isIdName_iff, fun name => Naming.isIdName_fieldName, fun pool service => ?_⟩
  obtain ⟨messages, inputs, enums, state⟩ := registered_build pool service
  refine ⟨messages, state.typeOrder, state.types_eq, fun message _ field kept named kind mapped => ?_⟩
  have shaped : Naming.isIdName (outputField pool field).name = true :=
    Naming.isIdName_fieldName named (isIdName_of_baseName kind mapped)
  have listed : outputField pool field ∈ (objectType pool message).fields := by
    rw [objectType_fields]
    exact List.mem_map_of_mem kept
  exact idFound_objectType listed shaped

/-- A message with an identifier that is no key, as its name has nothing but the ending. -/
def sticker : Message where
  name := "Sticker"
  fullName := "bank.Sticker"
  fields := [some { name := "text" }, some { name := "Id" }]

theorem identifiers_found_sticker :
    Words.IsName "_1_id".toList ∧ Naming.isIdName "_1_id" = true ∧
      Naming.isIdName (Naming.fieldName "_1_id") = true ∧
      (build { messages := [sticker] } bank).value.types = [objectType { messages := [sticker] } sticker] ∧
      IdFound (objectType { messages := [sticker] } sticker) := by
  obtain ⟨-, kept, found⟩ := identifiers_found
  have named : Words.IsName "_1_id".toList := by decide
  have shaped : Naming.isIdName "_1_id" = true := by decide +kernel
  obtain ⟨messages, walk, types, each⟩ := found { messages := [sticker] } bank
  have only : messages = [sticker] := walk.leaf rfl
  refine ⟨named, shaped, kept _ named shaped, by rw [types, only, List.map_singleton], ?_⟩
  have listed : sticker ∈ messages := by simp [only]
  exact each sticker listed { name := "Id" } (by decide) (by decide) rfl (by decide +kernel)

end Build

end Subgraph
