import Subgraph.Proofs.Comment
import Subgraph.Proofs.Sdl.Grammar
import Subgraph.Proofs.TypeExpr
import Subgraph.Sdl.Document

namespace Subgraph

namespace Sdl

open Schema Words

/-- Takes the mark off a type expression that ends with one. -/
def splitMark (expression : List Char) : List Char × Bool :=
  if expression.getLast? = some '!' then (expression.dropLast, true) else (expression, false)

theorem length_splitMark_le (expression : List Char) :
    (splitMark expression).1.length ≤ expression.length := by
  unfold splitMark
  split <;> simp

/-- A type expression as a type reference. -/
def TypeRef.ofChars (expression : List Char) : TypeRef :=
  match _found : TypeExpr.unwrap? (splitMark expression).1 with
  | some inner => .list (ofChars inner) (splitMark expression).2
  | none => .named (String.ofList (splitMark expression).1) (splitMark expression).2
termination_by expression.length
decreasing_by
  exact Nat.lt_of_lt_of_le (TypeExpr.length_unwrap_lt (by assumption)) (length_splitMark_le expression)

def TypeRef.ofText (expression : String) : TypeRef :=
  ofChars expression.toList

def markText (required : Bool) : String :=
  if required then "!" else ""

def TypeRef.text : TypeRef → String
  | named name required => name ++ markText required
  | list element required => "[" ++ (element.text ++ ("]" ++ markText required))

theorem splitMark_append (expression : List Char) :
    String.ofList (splitMark expression).1 ++ markText (splitMark expression).2 =
      String.ofList expression := by
  unfold splitMark
  split
  · rename_i last
    obtain ⟨body, rfl⟩ := List.getLast?_eq_some_iff.mp last
    simp [markText, String.ofList_append]
  · simp [markText]

/-- A type reference has all that its expression says. -/
theorem TypeRef.text_ofChars (expression : List Char) :
    (ofChars expression).text = String.ofList expression := by
  fun_induction ofChars expression with
  | case1 expression inner found ih =>
    rw [text, ih, ← splitMark_append expression, TypeExpr.unwrap?_eq_some found]
    simp [String.ofList_append, String.append_assoc]
  | case2 expression found => exact splitMark_append expression

theorem TypeRef.text_ofText (expression : String) : (ofText expression).text = expression := by
  rw [ofText, text_ofChars, String.ofList_toList]

/-- All names in the type are names of GraphQL. -/
def TypeRef.Named : TypeRef → Prop
  | named name _ => IsName name.toList
  | list element _ => element.Named

theorem splitMark_marked {body : List Char} (unmarked : body.getLast? ≠ some '!') (required : Bool) :
    splitMark (body ++ if required then ['!'] else []) = (body, required) := by
  cases required <;> simp [splitMark, unmarked]

theorem TypeRef.ofChars_of_splitMark {expression body : List Char} {required : Bool}
    (parts : splitMark expression = (body, required)) :
    ofChars expression =
      match TypeExpr.unwrap? body with
      | some inner => .list (ofChars inner) required
      | none => .named (String.ofList body) required := by
  rw [ofChars]
  split <;> rename_i found <;> rw [parts] at found <;> simp [parts, found]

theorem ofText_decorate {base : String} (named : IsName base.toList) (repeated required : Bool) :
    TypeRef.ofText (TypeExpr.decorate base repeated required) =
      if repeated then .list (.named base false) required else .named base required := by
  have unmarked : base.toList.getLast? ≠ some '!' := fun last =>
    absurd (named.2.2 '!' (List.mem_of_getLast? last)) (by decide)
  have unwrapped : TypeExpr.unwrap? base.toList = none := if_neg fun bracketed =>
    absurd (named.2.2 '[' (List.mem_of_mem_head? bracketed.1)) (by decide)
  have plain : TypeRef.ofChars base.toList = .named base false := by
    have parts : splitMark base.toList = (base.toList, false) := if_neg unmarked
    rw [TypeRef.ofChars_of_splitMark parts, unwrapped, String.ofList_toList]
  rw [TypeRef.ofText, TypeExpr.toList_decorate]
  cases repeated with
  | false =>
    have parts := splitMark_marked unmarked required
    rw [if_neg (by decide), TypeRef.ofChars_of_splitMark parts, unwrapped, String.ofList_toList]
    rfl
  | true =>
    have enclosed : ('[' :: base.toList ++ [']']).getLast? ≠ some '!' := by
      rw [TypeExpr.getLast?_wrap]
      decide
    have parts := splitMark_marked enclosed required
    rw [if_pos rfl, TypeRef.ofChars_of_splitMark parts, TypeExpr.unwrap?_wrap]
    simp [plain]

/-- What the block string of a comment stands for. -/
def described? (comment indent : String) : Option String :=
  if comment.isEmpty then none
  else some (String.ofList
    (blockValue ('\n' :: (indent.toList ++ Text.trim comment.toList ++ '\n' :: indent.toList))))

/-- Nothing but spaces and tabs. -/
def IsIndent (indent : String) : Prop :=
  ∀ c ∈ indent.toList, isSpace c = true

instance (indent : String) : Decidable (IsIndent indent) :=
  decidable_of_iff (indent.toList.all isSpace = true) List.all_eq_true

/-- The text is a single line with no blank at either end. -/
def Prose (text : String) : Prop :=
  Text.Trimmed text.toList ∧ SingleLine text

/-- Characters of a class that both line ends are outside of. -/
theorem isLineEnd_of_class {p : Char → Bool} (feed : p '\n' = false) (carriage : p '\r' = false) {c : Char}
    (member : p c = true) : isLineEnd c = false := by
  rw [Bool.eq_false_iff]
  intro ends
  simp only [isLineEnd, Bool.or_eq_true, beq_iff_eq] at ends
  rcases ends with rfl | rfl
  · exact absurd (feed.symm.trans member) (by decide)
  · exact absurd (carriage.symm.trans member) (by decide)

theorem prose_clean (comment : String) : Prose (Comment.clean comment) := by
  refine ⟨Comment.trimmed_clean comment, fun c member => ?_⟩
  have inside := Comment.isLineBreak_of_mem_clean member
  exact isLineEnd_of_class (p := (!Text.isLineBreak ·)) (by decide) (by decide) (by simp [inside])

def describe (comment : String) : Option String :=
  if comment.isEmpty then none else some comment

theorem isSpace_of_not_isBlank {c : Char} (solid : Text.isBlank c = false) : isSpace c = false := by
  rw [Bool.eq_false_iff]
  intro space
  simp only [isSpace, Bool.or_eq_true, beq_iff_eq] at space
  rcases space with rfl | rfl <;> exact absurd solid (by decide)

/-- A comment on a single line is described by itself, without the blanks at its ends. -/
theorem described?_of_singleLine {comment indent : String} (single : SingleLine comment)
    (filled : Text.trim comment.toList ≠ []) (spaces : IsIndent indent) :
    described? comment indent = some (String.ofList (Text.trim comment.toList)) := by
  obtain ⟨c, rest, shape⟩ := List.exists_cons_of_ne_nil filled
  have start : (Text.trim comment.toList).head? = some c := by rw [shape]; rfl
  have solid := isSpace_of_not_isBlank ((Text.trimmed_trim comment.toList).1 c start)
  have inside : ∀ c ∈ Text.trim comment.toList, isLineEnd c = false := fun c member =>
    single c ((Text.trim_sublist _).subset member)
  have nonempty : comment.isEmpty = false := by
    rw [Bool.eq_false_iff]
    intro empty
    rw [String.isEmpty_iff.mp empty] at filled
    exact filled rfl
  rw [described?, if_neg (by simp [nonempty]), blockValue_line spaces inside start solid]

theorem described?_of_prose {comment indent : String} (prose : Prose comment)
    (spaces : IsIndent indent) : described? comment indent = describe comment := by
  by_cases empty : comment = ""
  · simp [described?, describe, empty]
  · have same := prose.1.trim_eq
    have filled : Text.trim comment.toList ≠ [] := by
      rw [same]
      exact fun none => empty (String.toList_eq_nil_iff.mp none)
    rw [described?_of_singleLine prose.2 filled spaces, same, String.ofList_toList, describe,
      if_neg (by simpa using empty)]

/-- The description of an object field. A note on where the field is computed from may have several
lines. -/
def noteDescription (field : Field) : Option String :=
  match field.computedFrom.filter (!·.isEmpty) with
  | none => describe field.comment
  | some _ => described? field.note "  "

/-- A body without fields has the placeholder. -/
def filled {α : Type} (placeholder : α) (fields : List α) : List α :=
  if fields.isEmpty then [placeholder] else fields

def selection (name fields : String) : Directive :=
  ⟨name, [⟨"fields", .text fields⟩]⟩

def rootFieldOutline (field : Field) : FieldDefinition where
  description := describe field.comment
  name := field.name
  arguments := field.arguments.map fun input => { name := "input", type := .named input true }
  type := TypeRef.ofText field.type

def objectFieldOutline (field : Field) : FieldDefinition where
  description := noteDescription field
  name := field.name
  type := TypeRef.ofText field.type
  directives := (if field.external then [⟨"external", []⟩] else []) ++
    field.requirement?.toList.map (selection "requires")

def inputFieldOutline (field : Field) : InputValue where
  description := describe field.comment
  name := field.name
  type := TypeRef.ofText field.type

def placeholderField : FieldDefinition where
  name := "_empty"
  type := .named "Boolean" false

def placeholderValue : InputValue where
  name := "_empty"
  type := .named "Boolean" false

def objectOutline (type : ObjectType) : Definition :=
  .object (describe type.comment) type.name
    (if type.federated && !type.keyField.isEmpty then [selection "key" type.keyField] else [])
    (filled placeholderField (type.fields.map objectFieldOutline))

def inputOutline (type : InputType) : Definition :=
  .input (describe type.comment) type.name (filled placeholderValue (type.fields.map inputFieldOutline))

def enumOutline (type : EnumType) : Definition :=
  .enum (describe type.comment) type.name (type.options.map (·.name))

/-- The directive that links the federation directives in use. -/
def linkOutline (imports : List String) : Definition :=
  .extension [⟨"link",
    [⟨"url", .text "https://specs.apollo.dev/federation/v2.3"⟩, ⟨"import", .list imports⟩]⟩]

/-- The definitions that the document of a schema holds, in order. -/
def outline (schema : Schema) : List Definition :=
  (if schema.federationImports.isEmpty then [] else [linkOutline schema.federationImports]) ++
    .object none "Query" [] (filled placeholderField (schema.query.map rootFieldOutline)) ::
    (if schema.mutation.isEmpty then []
      else [.object none "Mutation" [] (schema.mutation.map rootFieldOutline)]) ++
    schema.types.map objectOutline ++ schema.inputs.map inputOutline ++ schema.enums.map enumOutline

end Sdl

end Subgraph
