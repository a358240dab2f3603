import Subgraph.Layout
import Subgraph.Proofs.Closure
import Subgraph.Proofs.Sdl.Reading

namespace Subgraph

namespace Sdl

theorem singleLine_natRepr (number : Nat) : SingleLine number.repr := by
  intro c member
  rw [Nat.toList_repr] at member
  have digit := Nat.isDigit_of_mem_toDigits (by decide) (by decide) member
  exact isLineEnd_of_class (by decide) (by decide) digit

theorem SingleLine.append {first second : String} (head : SingleLine first) (tail : SingleLine second) :
    SingleLine (first ++ second) := by
  intro c member
  rw [String.toList_append] at member
  exact (List.mem_append.mp member).elim (head c) (tail c)

theorem singleLine_intRepr (number : Int) : SingleLine number.repr := by
  cases number with
  | ofNat n => exact singleLine_natRepr n
  | negSucc n => exact .append (by decide) (singleLine_natRepr (n + 1))

theorem named_decorate {base : String} (named : Words.IsName base.toList) (repeated required : Bool) :
    (TypeRef.ofText (TypeExpr.decorate base repeated required)).Named := by
  rw [ofText_decorate named]
  split <;> exact named

theorem mem_note_of_computedFrom {field : Schema.Field} {origin : String}
    (computed : field.computedFrom.filter (!·.isEmpty) = some origin) : 'C' ∈ field.note.toList := by
  rw [Schema.Field.note, computed]
  dsimp only
  split
  · simp [toString]
  · simp [toString]

theorem noteDescription_of_singleLine {field : Schema.Field} (prose : Prose field.comment)
    (single : SingleLine field.note) :
    noteDescription field = describe (Text.onChars Text.trim field.note) := by
  unfold noteDescription
  split
  · rename_i plain
    rw [Schema.Field.note, plain, Text.onChars, prose.1.trim_eq, String.ofList_toList]
  · rename_i origin computed
    have filled : Text.trim field.note.toList ≠ [] :=
      Text.trim_ne_nil (mem_note_of_computedFrom computed) (by decide)
    rw [described?_of_singleLine single filled (by decide), describe, if_neg]
    · rfl
    · simpa [Text.onChars] using filled

end Sdl

namespace Naming

/-- Identifiers with full stops between them. -/
def IsDotted (name : String) : Prop :=
  ∃ parts : List String, parts ≠ [] ∧ (∀ part ∈ parts, Words.isIdentifier part.toList = true) ∧
    name = ".".intercalate parts

theorem IsDotted.singleLine {name : String} (dotted : IsDotted name) : Sdl.SingleLine name := by
  obtain ⟨parts, _, identifiers, rfl⟩ := dotted
  intro c member
  rw [String.toList_intercalate] at member
  rcases Comment.mem_intercalate member with rfl | ⟨line, listed, inside⟩
  · decide
  · obtain ⟨part, original, rfl⟩ := List.mem_map.mp listed
    have allowed := (Words.isName_of_isIdentifier (identifiers part original)).2.2 c inside
    exact Sdl.isLineEnd_of_class (by decide) (by decide) allowed

theorem hasAlphanum_of_isIdentifier {name : String} (identifier : Words.isIdentifier name.toList = true) :
    HasAlphanum name := by
  obtain ⟨c, rest, chars, letter, _⟩ := Words.exists_of_isIdentifier identifier
  exact ⟨c, chars ▸ List.mem_cons_self, Words.isAlphanum_of_isAlpha letter⟩

end Naming

namespace Build

open Descriptor Sdl Words

variable {pool : Pool} {service : Service}

/-- The enum has values, and all names are identifiers that values may have. -/
structure WellNamedEnum (enum : Enum) : Prop where
  name : isIdentifier enum.name.toList = true
  nonempty : enum.values ≠ []
  values : ∀ value ∈ enum.values, isIdentifier value.name.toList = true ∧ value.name ∉ reservedValues

/-- The names that a service can reach are identifiers. -/
structure WellNamed (pool : Pool) (service : Service) : Prop where
  fullName : Naming.IsDotted service.fullName
  source : SingleLine service.source
  methods : ∀ method, some method ∈ service.methods → isIdentifier method.name.toList = true
  messages : ∀ message, Reached pool service message → isIdentifier message.name.toList = true
  fields : ∀ message, Reached pool service message → ∀ field, some field ∈ message.fields →
    isIdentifier field.name.toList = true
  enums : ∀ message, Reached pool service message → ∀ field enum, some field ∈ message.fields →
    fieldEnum? pool field = some enum → WellNamedEnum enum

theorem WellNamed.readable (named : WellNamed pool service) : ReadableNames pool service where
  messages message reached := Naming.hasAlphanum_of_isIdentifier (named.messages message reached)
  enums message reached field enum member refers :=
    Naming.hasAlphanum_of_isIdentifier (named.enums message reached field enum member refers).name

/-- A field prints if what its type is built on has a name. -/
theorem printable_plainField {reference : Message → String} {field : Field}
    (identifier : isIdentifier field.name.toList = true) (kept : pool.unresolved field = false)
    (message : ∀ held, pool.referred? field = some held → IsName (reference held).toList)
    (enum : ∀ enum, fieldEnum? pool field = some enum → IsName (Naming.typeName enum.name).toList) :
    PrintableField (plainField pool reference field) where
  name := by
    rw [plainField, Naming.fieldName, Text.onChars, String.toList_ofList]
    exact isName_fieldName identifier
  type := by
    refine named_decorate ?_ field.repeated field.required
    rcases baseType_cases kept reference with ⟨held, holds, same⟩ | ⟨used, refers, same⟩ | scalar
    · exact same ▸ message held holds
    · exact same ▸ enum used refers
    · exact (Naming.usable_of_isScalar scalar).1
  comment := prose_clean field.comment

section Reached

variable (named : WellNamed pool service) {message : Message} (reached : Reached pool service message)

include named reached

theorem WellNamed.isName_objectName : IsName (objectName message).toList :=
  (Naming.usable_typeName (named.readable.messages message reached)).1

theorem WellNamed.printable_fields {reference : Message → String}
    (held : ∀ held, Reached pool service held → IsName (reference held).toList) {field : Field}
    (shown : field ∈ pool.keptFields message) : PrintableField (plainField pool reference field) := by
  obtain ⟨listed, kept⟩ := Pool.mem_keptFields.mp shown
  refine printable_plainField (named.fields message reached field listed) kept (fun other holds => ?_)
    fun enum refers => ?_
  · exact held other (ReachableFrom.step reached (Pool.mem_references shown holds))
  · exact (Naming.usable_typeName (named.readable.enums message reached field enum listed refers)).1

theorem WellNamed.printable_objectType :
    PrintableType (objectType pool message).name (objectType pool message).comment
      (objectType pool message).fields where
  name := objectType_name pool message ▸ named.isName_objectName reached
  comment := objectType_comment pool message ▸ prose_clean message.comment
  fields field shown := by
    rw [objectType_fields] at shown
    obtain ⟨source, kept, rfl⟩ := List.mem_map.mp shown
    have plain := named.printable_fields reached (fun _ => named.isName_objectName) kept
    exact ⟨plain.name, plain.type, plain.comment⟩

theorem WellNamed.printable_inputType :
    PrintableType (inputType pool message).name (inputType pool message).comment
      (inputType pool message).fields where
  name := (Naming.usable_inputName message.name).1
  comment := prose_clean message.comment
  fields field shown := by
    obtain ⟨source, kept, rfl⟩ := List.mem_map.mp shown
    exact named.printable_fields reached (fun held _ => (Naming.usable_inputName held.name).1) kept

end Reached

theorem printable_enumType {enum : Enum} (named : WellNamedEnum enum) : PrintableEnum (enumType enum) where
  name := (Naming.usable_typeName (Naming.hasAlphanum_of_isIdentifier named.name)).1
  comment := prose_clean enum.comment
  nonempty := by simpa [enumType] using named.nonempty
  options option listed := by
    obtain ⟨value, member, rfl⟩ := List.mem_map.mp listed
    obtain ⟨identifier, free⟩ := named.values value member
    exact ⟨isName_of_isIdentifier identifier, free, .append (by decide) (singleLine_intRepr value.number)⟩

/-- The parts of a schema that no method changes. -/
def heading (schema : Schema) : String × String × String :=
  (schema.service, schema.source, schema.comment)

theorem heading_addMethod (pool : Pool) (schema : Schema) (method : Method) :
    heading (addMethod pool schema method).value = heading schema := by
  cases resolved : output? pool method with
  | none => rw [addMethod_value_unresolved resolved]
  | some entry =>
    rw [addMethod_value_resolved resolved]
    cases request? pool method <;> cases classify method.name <;> rfl

theorem heading_addMethods (pool : Pool) (service : String) (schema : Schema)
    (methods : List (Option Method)) :
    heading (addMethods pool service schema methods).value = heading schema := by
  induction methods generalizing schema with
  | nil => rfl
  | cons method? rest ih =>
    cases method? with
    | none => exact ih schema
    | some method =>
      simp only [addMethods, Logged.value_bind, ih]
      exact heading_addMethod pool schema method

theorem heading_build (pool : Pool) (service : Service) :
    heading (build pool service).value = (service.fullName, service.source, Comment.clean service.comment) :=
  heading_addMethods pool service.fullName (emptySchema service) service.methods

theorem mem_methods_of_mem_served {methods : List (Option Method)} {method : Method} {output : Message}
    (member : (method, output) ∈ served pool methods) : some method ∈ methods := by
  obtain ⟨method?, listed, found⟩ := List.mem_filterMap.mp member
  obtain ⟨source, present, found⟩ := Option.bind_eq_some_iff.mp found
  obtain ⟨entry, _, same⟩ := Option.bind_eq_some_iff.mp found
  cases Option.some.inj same
  exact present ▸ listed

theorem WellNamed.printable_rootField (named : WellNamed pool service) {method : Method} {output : Message}
    (listed : (method, output) ∈ served pool service.methods) :
    PrintableField (rootField pool method output) where
  name := by
    rw [rootField, Naming.lowerFirst, Text.onChars, String.toList_ofList]
    exact isName_lowerFirst (named.methods method (mem_methods_of_mem_served listed))
  type := by
    have reached : Reached pool service output :=
      .root (List.mem_append_left _ (mem_outputs_of_mem_served listed))
    have plain := named_decorate (named.isName_objectName reached) false false
    rwa [TypeExpr.decorate_plain] at plain
  comment := prose_clean method.comment

theorem WellNamed.printable_build (named : WellNamed pool service) :
    Printable (build pool service).value := by
  obtain ⟨types, inputs, enums, state⟩ := registered_build pool service
  have heading := heading_build pool service
  simp only [Build.heading, Prod.mk.injEq] at heading
  obtain ⟨fullName, source, comment⟩ := heading
  refine ⟨?_, ?_, ?_, ?_, ?_, ?_, ?_, ?_⟩
  · exact source ▸ named.source
  · exact fullName ▸ named.fullName.singleLine
  · exact comment ▸ (prose_clean service.comment).2
  · intro field member
    obtain ⟨method, output, listed, rfl⟩ := mem_rootFields member
    exact named.printable_rootField listed
  · intro field member input argument
    obtain ⟨method, output, _, rfl⟩ := mem_rootFields member
    obtain ⟨entry, _, rfl⟩ := List.mem_map.mp argument
    exact (Naming.usable_inputName entry.2.name).1
  · intro type member
    rw [state.types_eq] at member
    obtain ⟨message, registered, rfl⟩ := List.mem_map.mp member
    exact named.printable_objectType (state.types_reached message registered)
  · intro type member
    rw [state.inputs_eq] at member
    obtain ⟨message, registered, rfl⟩ := List.mem_map.mp member
    exact named.printable_inputType (state.inputs_reached message registered)
  · intro type member
    obtain ⟨enum, ⟨owner, registered, field, shown, refers⟩, rfl⟩ := state.enum_origin member
    have reached := (List.mem_append.mp registered).elim (state.types_reached owner)
      (state.inputs_reached owner)
    exact printable_enumType (named.enums owner reached field enum (Pool.mem_keptFields.mp shown).1 refers)

/-- The standard layout of a well-named service always has a document, and GraphQL reads it as the outline
of the schema: no comment and no option can break out of its place. The outline has all that type
expressions say, and the note of a field that stays on one line is its description. -/
theorem standard_document_read (pool : Pool) (service : Service) (named : WellNamed pool service) :
    (∃ document, Layout.standard.render (build pool service).value = .ok document ∧
        read? document = some (outline (build pool service).value)) ∧
      (∀ expression, (TypeRef.ofText expression).text = expression) ∧
      ∀ type ∈ (build pool service).value.types, ∀ field ∈ type.fields, SingleLine field.note →
        noteDescription field = describe (Text.onChars Text.trim field.note) := by
  have printable := named.printable_build
  refine ⟨⟨_, rfl, read?_document printable⟩, TypeRef.text_ofText, fun type member field shown single => ?_⟩
  exact noteDescription_of_singleLine ((printable.types type member).fields field shown).comment single

/-- Ordinary names throughout the pool are enough. -/
theorem wellNamed_of_pool (fullName : Naming.IsDotted service.fullName) (source : SingleLine service.source)
    (methods : ∀ method ∈ service.methods.filterMap id, isIdentifier method.name.toList = true)
    (messages : ∀ message ∈ pool.messages, isIdentifier message.name.toList = true)
    (fields : ∀ message ∈ pool.messages, ∀ field ∈ message.fields.filterMap id,
      isIdentifier field.name.toList = true)
    (enums : ∀ enum ∈ pool.enums, WellNamedEnum enum) : WellNamed pool service where
  fullName := fullName
  source := source
  methods method listed := methods method (List.mem_filterMap.mpr ⟨_, listed, rfl⟩)
  messages message reached := messages message reached.mem_messages
  fields message reached field listed :=
    fields message reached.mem_messages field (List.mem_filterMap.mpr ⟨_, listed, rfl⟩)
  enums message reached field enum listed refers := by
    obtain ⟨place, _, found⟩ := Option.bind_eq_some_iff.mp (fieldEnum?_eq_some.mp refers).2
    exact enums enum (List.mem_of_getElem? found)

/-- Comments with quotes, backslashes and line ends, a required selection with a quote and a backslash, and an
origin with three quotes on a line of its own. -/
def parcelPool : Pool where
  messages :=
    [{ name := "parcel", fullName := "post.parcel"
       comment := "/** \"\"\" \\\"\"\"\" \r\n * type Query \x7b\x7d */"
       fields :=
        [some { name := "parcel_id", comment := "\\" },
         some { name := "state", kind := .enum, enum := some 0, repeated := true },
         some
          { name := "weight"
            options :=
              ⟨[⟨OptionSet.requiresOption, .bytes [97, 34, 92]⟩,
                ⟨OptionSet.computedFromOption, .bytes [120, 10, 34, 34, 34, 121]⟩]⟩ }] },
     { name := "SendRequest", fullName := "post.SendRequest"
       fields := [some { name := "parcel", kind := .message, message := some 0 }] }]
  enums :=
    [{ name := "state", fullName := "post.state", values := [{ name := "LOST", number := -1 }]
       comment := "# true" }]

def parcelService : Service where
  name := "Post"
  fullName := "post.Post"
  source := "post \"quoted\".proto"
  comment := "first\nsecond"
  methods := [none, some { name := "Send", input := some 1, output := some 0, comment := "\"\"\"\"" }]

theorem standard_document_read_parcel :
    WellNamed parcelPool parcelService ∧
      (∃ document, Layout.standard.render (build parcelPool parcelService).value = .ok document ∧
        read? document = some (outline (build parcelPool parcelService).value)) := by
  have named : WellNamed parcelPool parcelService := by
    refine wellNamed_of_pool ⟨["post", "Post"], by decide, by decide, by decide⟩ (by decide +kernel)
      (by decide +kernel) (by decide +kernel) (by decide +kernel) fun enum member => ?_
    rw [List.mem_singleton.mp member]
    exact ⟨by decide, by decide, by decide⟩
  exact ⟨named, (standard_document_read parcelPool parcelService named).1⟩

end Build

end Subgraph
