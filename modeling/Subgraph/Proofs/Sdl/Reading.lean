import Subgraph.Proofs.Sdl.Outline

namespace Subgraph.Sdl

open Schema Words

/-- The text makes these tokens and ends the name before it. -/
structure Closes (text : String) (tokens : List Token) : Prop where
  ends : endsName text = true
  scans : Scans text tokens

variable {after : String} {tokens : List Token}

theorem Signs.before {signs : String} {found : List Token} (marked : Signs signs found)
    (later : Scans after tokens) : Closes (signs ++ after) (found ++ tokens) :=
  ⟨endsName_append marked.1 after, (Scans.signs marked).append later⟩

theorem Closes.name {name : String} (named : IsName name.toList) (later : Closes after tokens) :
    Scans (name ++ after) (.name name :: tokens) :=
  Scans.name named later.ends later.scans

theorem Closes.markText (required : Bool) (later : Closes after tokens) :
    Closes (markText required ++ after) (marked required ++ tokens) := by
  cases required with
  | false => simpa [Sdl.markText, marked] using later
  | true => exact Signs.before (by decide : Signs "!" [.mark '!']) later.scans

theorem Closes.type {type : TypeRef} (named : type.Named) (later : Closes after tokens) :
    Scans (type.text ++ after) (type.tokens ++ tokens) := by
  induction type generalizing after tokens with
  | named name required =>
    rw [TypeRef.text, TypeRef.tokens, String.append_assoc]
    exact (later.markText required).name named
  | list element required ih =>
    have closing := Signs.before (by decide : Signs "]" [.mark ']']) (later.markText required).scans
    have inner := ih named closing
    have opening : Scans "[" [.mark '['] := .signs (by decide)
    have whole := opening.append inner
    simpa only [TypeRef.text, TypeRef.tokens, String.append_assoc, List.append_assoc, List.cons_append,
      List.nil_append] using whole

/-- A text on lines of its own is one block string, whatever quotes and lines it has. -/
theorem Scans.block (text : String) {indent : String} (spaces : IsIndent indent) :
    Scans ("\"\"\"\n" ++ (indent ++ (Text.onChars guardQuotes text ++ ("\n" ++ (indent ++ "\"\"\"")))))
      [.text (String.ofList
        (blockValue ('\n' :: (indent.toList ++ text.toList ++ '\n' :: indent.toList))))] := by
  intro rest
  have whole := scan_block (readBlock_indented text.toList rest spaces)
  simpa [Text.onChars] using whole

theorem Scans.spaces {indent : String} (spaces : IsIndent indent) : Scans indent [] := by
  have unmarked : ∀ c ∈ indent.toList, ¬ marks.contains c = true := by
    intro c member
    have space := spaces c member
    simp only [isSpace, Bool.or_eq_true, beq_iff_eq] at space
    rcases space with rfl | rfl <;> decide
  have skipped : indent.toList.all (fun c => isIgnored c || marks.contains c) = true :=
    List.all_eq_true.mpr fun c member => by simp [isIgnored, spaces c member]
  have whole := Scans.punctuation skipped
  rwa [List.filter_eq_nil_iff.mpr unmarked] at whole

theorem Scans.description (comment : String) {indent : String}
    (spaces : IsIndent indent) :
    Scans (description comment indent) ((described? comment indent).toList.map .text) := by
  by_cases empty : comment.isEmpty = true
  · simpa [Sdl.description, described?, empty] using Scans.empty
  · have line : Scans "\n" [] := .signs (by decide)
    have whole := ((Scans.spaces spaces).append (.block (Text.onChars Text.trim comment) spaces)).append line
    have trimmed : (Text.onChars Text.trim comment).toList = Text.trim comment.toList :=
      String.toList_ofList
    have guarded : Text.onChars (guardQuotes ∘ Text.trim) comment =
        Text.onChars guardQuotes (Text.onChars Text.trim comment) := by
      simp [Text.onChars]
    rw [trimmed] at whole
    simpa [Sdl.description, described?, empty, guarded, String.append_assoc] using whole

/-- A description and the name on the line after it. -/
theorem Closes.headed {comment indent name : String} {description : Option String}
    (described : described? comment indent = description)
    (spaces : IsIndent indent) (named : IsName name.toList)
    (later : Closes after tokens) :
    Scans (Sdl.description comment indent ++ (indent ++ (name ++ after)))
      (Sdl.headed description name ++ tokens) := by
  have front := described ▸ Scans.description comment spaces
  have whole := front.append ((Scans.spaces spaces).append (later.name named))
  simpa [Sdl.headed] using whole

/-- A directive with a selection of fields. -/
theorem Closes.selection {name fields : String} (named : IsName name.toList) (nonempty : fields ≠ "")
    (later : Scans after tokens) :
    Closes (" @" ++ (name ++ ("(fields: " ++ (quote fields ++ (")" ++ after)))))
      ((selection name fields).tokens ++ tokens) := by
  have closing : Scans ")" [.mark ')'] := .signs (by decide)
  have value := (Scans.quoted nonempty).append (closing.append later)
  have colon := Signs.before (by decide : Signs ": " [.mark ':']) value
  have word := colon.name (by decide : IsName "fields".toList)
  have opening := Signs.before (by decide : Signs "(" [.mark '(']) word
  have literal : "(fields: " = "(" ++ ("fields" ++ ": ") := rfl
  rw [literal, String.append_assoc, String.append_assoc]
  have whole := Signs.before (by decide : Signs " @" [.mark '@']) (opening.name named)
  exact whole

theorem Closes.external {external : Bool} (later : Closes after tokens) :
    Closes ((if external then " @external" else "") ++ after)
      ((if external then [(⟨"external", []⟩ : Directive)] else []).flatMap Directive.tokens ++ tokens) := by
  cases external with
  | false => simpa using later
  | true =>
    have literal : " @external" = " @" ++ "external" := rfl
    rw [if_pos rfl, if_pos rfl, literal, String.append_assoc]
    have word := later.name (by decide : IsName "external".toList)
    have whole := Signs.before (by decide : Signs " @" [.mark '@']) word
    exact whole

theorem Closes.fieldDirectives (field : Field) (later : Closes after tokens) :
    Closes (field.directives ++ after)
      ((objectFieldOutline field).directives.flatMap Directive.tokens ++ tokens) := by
  rw [Field.directives, objectFieldOutline, List.flatMap_append, String.append_assoc, List.append_assoc]
  refine Closes.external ?_
  cases required : field.requirement? with
  | none => simpa using later
  | some fields =>
    have nonempty : fields ≠ "" := by
      have kept := (Option.filter_eq_some_iff.mp required).2
      simpa using kept
    have literal : " @requires(fields: " = " @" ++ ("requires" ++ "(fields: ") := rfl
    have whole := Closes.selection (by decide : IsName "requires".toList) nonempty later.scans
    simpa only [literal, toString, String.append_assoc, Option.toList_some, List.map_cons, List.map_nil,
      List.flatMap_cons, List.flatMap_nil, List.append_nil] using whole

theorem Closes.objectDirectives (type : ObjectType) (later : Closes after tokens) :
    Closes (type.directives ++ after)
      ((if type.federated && !type.keyField.isEmpty then [Sdl.selection "key" type.keyField]
        else []).flatMap Directive.tokens ++ tokens) := by
  unfold ObjectType.directives
  split
  · rename_i entity
    have nonempty : type.keyField ≠ "" := by
      simp only [Bool.and_eq_true, Bool.not_eq_true', String.isEmpty_eq_false_iff] at entity
      exact entity.2
    have literal : " @key(fields: " = " @" ++ ("key" ++ "(fields: ") := rfl
    have whole := Closes.selection (by decide : IsName "key".toList) nonempty later.scans
    simpa only [literal, toString, String.append_assoc, List.flatMap_cons, List.flatMap_nil,
      List.append_nil] using whole
  · simpa using later

theorem Scans.intercalate {α : Type} {print : α → String} {tokens : α → List Token} {items : List α}
    (each : ∀ item ∈ items, Scans (print item) (tokens item)) :
    Scans (", ".intercalate (items.map print)) (items.flatMap tokens) := by
  have comma : Scans ", " [] := .signs (by decide)
  induction items with
  | nil => exact .empty
  | cons item items ih =>
    have here := each item List.mem_cons_self
    have others := ih fun i later => each i (List.mem_cons_of_mem _ later)
    cases items with
    | nil => simpa using here
    | cons next items =>
      have joined := (here.append comma).append others
      rw [List.append_nil] at joined
      rw [List.map_cons, List.map_cons, String.intercalate_cons_cons, List.flatMap_cons]
      exact joined

/-- A colon and the type after it. -/
theorem Closes.typed {expression : String} (named : (TypeRef.ofText expression).Named)
    (later : Closes after tokens) :
    Closes (": " ++ (expression ++ after)) (.mark ':' :: ((TypeRef.ofText expression).tokens ++ tokens)) := by
  have typed := later.type named
  rw [TypeRef.text_ofText] at typed
  exact Signs.before (by decide : Signs ": " [.mark ':']) typed

theorem Closes.argumentList {field : Field} (named : ∀ input ∈ field.arguments, IsName input.toList)
    (later : Closes after tokens) :
    Closes (field.argumentList ++ after)
      (group? '(' ')' InputValue.tokens (rootFieldOutline field).arguments ++ tokens) := by
  by_cases empty : field.arguments = []
  · simpa [Field.argumentList, rootFieldOutline, empty, group?] using later
  · have each : ∀ input ∈ field.arguments,
        Scans s!"input: {input}!" (InputValue.tokens ⟨none, "input", .named input true⟩) := by
      intro input member
      have mark : Closes "!" [.mark '!'] := ⟨by decide, .signs (by decide)⟩
      have colon := Signs.before (by decide : Signs ": " [.mark ':']) (mark.name (named input member))
      have literal : "input: " = "input" ++ ": " := rfl
      change Scans ("input: " ++ input ++ "!") _
      rw [literal, String.append_assoc, String.append_assoc]
      exact colon.name (by decide : IsName "input".toList)
    have closing : Scans ")" [.mark ')'] := .signs (by decide)
    have inner := (Scans.intercalate each).append (closing.append later.scans)
    have opening := Signs.before (by decide : Signs "(" [.mark '(']) inner
    simpa [Field.argumentList, rootFieldOutline, empty, group?, group, String.append_assoc,
      List.flatMap_map] using opening

/-- Names and types that GraphQL allows, and a comment of one line. -/
structure PrintableField (field : Field) : Prop where
  name : IsName field.name.toList
  type : (TypeRef.ofText field.type).Named
  comment : Prose field.comment

theorem closes_line : Closes "\n" [] :=
  ⟨by decide, .signs (by decide)⟩

/-- The directives that a line of a document consists of. -/
def directivesOn (line : String) : Option (List Directive) := do
  let tokens ← scan (line ++ "\n").toList
  let (directives, rest) ← readDirectives tokens
  if rest.isEmpty then some directives else none

theorem directivesOn_of_closes {line : String} {directives : List Directive}
    (closes : Closes (line ++ "\n") (directives.flatMap Directive.tokens ++ [])) :
    directivesOn line = some directives := by
  have scanned : scan (line ++ "\n").toList = some (directives.flatMap Directive.tokens ++ []) := by
    simpa [scan] using closes.scans []
  have read := readsBack_directives directives [] (by simp)
  rw [directivesOn, scanned, Option.bind_eq_bind, Option.bind_some, read]
  rfl

theorem Scans.rootFieldLines {field : Field} (printable : PrintableField field)
    (named : ∀ input ∈ field.arguments, IsName input.toList) :
    Scans (rootFieldLines field) (rootFieldOutline field).tokens := by
  have described := described?_of_prose printable.comment (by decide : IsIndent "  ")
  have typed := (closes_line.typed printable.type).argumentList named
  have whole := typed.headed described (by decide) printable.name
  simpa [Sdl.rootFieldLines, toString, String.append_assoc, FieldDefinition.tokens,
    rootFieldOutline] using whole

theorem Scans.objectFieldLines {field : Field} (printable : PrintableField field) :
    Scans (objectFieldLines field) (objectFieldOutline field).tokens := by
  have described : described? field.note "  " = noteDescription field := by
    unfold noteDescription
    split
    · rename_i plain
      rw [Field.note, plain]
      exact described?_of_prose printable.comment (by decide)
    · rfl
  have typed := (closes_line.fieldDirectives field).typed printable.type
  have whole := typed.headed described (by decide) printable.name
  simpa [Sdl.objectFieldLines, toString, String.append_assoc, FieldDefinition.tokens, objectFieldOutline,
    group?] using whole

theorem Scans.inputFieldLines {field : Field} (printable : PrintableField field) :
    Scans (inputFieldLines field) (inputFieldOutline field).tokens := by
  have described := described?_of_prose printable.comment (by decide : IsIndent "  ")
  have whole := (closes_line.typed printable.type).headed described (by decide) printable.name
  simpa [Sdl.inputFieldLines, toString, String.append_assoc, InputValue.tokens, inputFieldOutline] using whole

/-- The lines of a body that may have nothing but the placeholder. -/
theorem Scans.fieldLines {α : Type} {print : Field → String} {convert : Field → α} {tokens : α → List Token}
    {placeholder : α} {fields : List Field} (empty : Scans Sdl.placeholder (tokens placeholder))
    (each : ∀ field ∈ fields, Scans (print field) (tokens (convert field))) :
    Scans (fieldLines print fields) ((filled placeholder (fields.map convert)).flatMap tokens) := by
  cases fields with
  | nil => simpa [Sdl.fieldLines, filled] using empty
  | cons field fields =>
    have whole := Scans.join each
    simpa [Sdl.fieldLines, filled, List.flatMap_map] using whole

theorem scans_placeholder : Scans placeholder placeholderValue.tokens := by
  have literal : placeholder = "  " ++ ("_empty" ++ (": " ++ ("Boolean" ++ "\n"))) := rfl
  have type := closes_line.name (by decide : IsName "Boolean".toList)
  have colon := Signs.before (by decide : Signs ": " [.mark ':']) type
  have name := colon.name (by decide : IsName "_empty".toList)
  rw [literal]
  exact (Scans.signs (by decide : Signs "  " [])).append name

/-- A body in braces after the head of a definition. -/
theorem closes_body {α : Type} {body : String} {print : α → List Token} {parts : List α}
    (inside : Scans body (parts.flatMap print)) :
    Closes (" \x7b\n" ++ (body ++ "\x7d\n")) (group '\x7b' '\x7d' print parts) := by
  have closing : Scans "\x7d\n" [.mark '\x7d'] := .signs (by decide)
  have whole := Signs.before (by decide : Signs " \x7b\n" [.mark '\x7b']) (inside.append closing)
  exact whole

/-- The keyword of a definition and the name after it. -/
theorem Closes.definition {comment keyword name : String} (prose : Prose comment)
    (word : IsName keyword.toList) (named : IsName name.toList) (later : Closes after tokens) :
    Scans (description comment "" ++ (keyword ++ (" " ++ (name ++ after))))
      (Sdl.headed (describe comment) keyword ++ .name name :: tokens) := by
  have space := Signs.before (by decide : Signs " " []) (later.name named)
  have described := described?_of_prose prose (by decide : IsIndent "")
  have whole := space.headed described (by decide) word
  simpa using whole

structure PrintableType (name comment : String) (fields : List Field) : Prop where
  name : IsName name.toList
  comment : Prose comment
  fields : ∀ field ∈ fields, PrintableField field

structure PrintableOption (option : EnumOption) : Prop where
  name : IsName option.name.toList
  free : option.name ∉ reservedValues
  comment : SingleLine option.comment

structure PrintableEnum (type : EnumType) : Prop where
  name : IsName type.name.toList
  comment : Prose type.comment
  nonempty : type.options ≠ []
  options : ∀ option ∈ type.options, PrintableOption option

theorem Scans.line : Scans "\n" [] :=
  .signs (by decide)

theorem Scans.objectBlock {type : ObjectType} (printable : PrintableType type.name type.comment type.fields) :
    Scans (objectBlock type) (objectOutline type).tokens := by
  have body : Scans (Sdl.fieldLines Sdl.objectFieldLines type.fields)
      ((filled placeholderField (type.fields.map objectFieldOutline)).flatMap FieldDefinition.tokens) :=
    .fieldLines scans_placeholder fun field member => .objectFieldLines (printable.fields field member)
  have front := ((closes_body body).objectDirectives type).definition printable.comment
    (by decide : IsName "type".toList) printable.name
  have literal : "type " = "type" ++ " " := rfl
  have whole := Scans.line.append front
  simpa only [Sdl.objectBlock, Sdl.block, toString, literal, String.append_assoc, objectOutline,
    Definition.tokens, List.nil_append] using whole

theorem Scans.inputBlock {type : InputType} (printable : PrintableType type.name type.comment type.fields) :
    Scans (inputBlock type) (inputOutline type).tokens := by
  have body : Scans (Sdl.fieldLines Sdl.inputFieldLines type.fields)
      ((filled placeholderValue (type.fields.map inputFieldOutline)).flatMap InputValue.tokens) :=
    .fieldLines scans_placeholder fun field member => .inputFieldLines (printable.fields field member)
  have front := (closes_body body).definition printable.comment (by decide : IsName "input".toList)
    printable.name
  have literal : "input " = "input" ++ " " := rfl
  have whole := Scans.line.append front
  simpa only [Sdl.inputBlock, Sdl.block, toString, literal, String.append_assoc, inputOutline,
    Definition.tokens, List.nil_append] using whole

theorem Scans.enumOption {option : EnumOption} (printable : PrintableOption option) :
    Scans s!"  {option.name} # {option.comment}\n" [.name option.name] := by
  have hidden : Scans ("# " ++ option.comment ++ "\n") [] := .comment rfl (by decide) printable.comment
  have name := (Signs.before (by decide : Signs " " []) hidden).name printable.name
  have literal : " # " = " " ++ "# " := rfl
  have whole := (Scans.signs (by decide : Signs "  " [])).append name
  simpa only [toString, literal, String.append_assoc, List.nil_append] using whole

theorem Scans.enumBlock {type : EnumType} (printable : PrintableEnum type) :
    Scans (enumBlock type) (enumOutline type).tokens := by
  have body : Scans (String.join (type.options.map fun option => s!"  {option.name} # {option.comment}\n"))
      ((type.options.map (·.name)).flatMap ([.name ·])) := by
    rw [List.flatMap_map]
    exact .join fun option member => .enumOption (printable.options option member)
  have front := (closes_body body).definition printable.comment (by decide : IsName "enum".toList)
    printable.name
  have literal : "enum " = "enum" ++ " " := rfl
  have whole := Scans.line.append front
  simpa only [Sdl.enumBlock, Sdl.block, toString, literal, String.append_assoc, enumOutline,
    Definition.tokens, List.nil_append] using whole

/-- What a schema needs for its document to be read: names that GraphQL allows, and texts that stay on
their lines. -/
structure Printable (schema : Schema) : Prop where
  source : SingleLine schema.source
  service : SingleLine schema.service
  comment : SingleLine schema.comment
  roots : ∀ field ∈ schema.query ++ schema.mutation, PrintableField field
  arguments : ∀ field ∈ schema.query ++ schema.mutation, ∀ input ∈ field.arguments, IsName input.toList
  types : ∀ type ∈ schema.types, PrintableType type.name type.comment type.fields
  inputs : ∀ type ∈ schema.inputs, PrintableType type.name type.comment type.fields
  enums : ∀ type ∈ schema.enums, PrintableEnum type

/-- The line of a document with the comment of its service. -/
def commentLine (comment : String) : String :=
  if comment.isEmpty then "" else "# " ++ comment ++ "\n"

theorem Scans.commentLine {comment : String} (single : SingleLine comment) :
    Scans (commentLine comment) [] := by
  unfold Sdl.commentLine
  split
  · exact .empty
  · exact .comment rfl (by decide) single

theorem Scans.header {schema : Schema} (printable : Printable schema) : Scans (header schema) [] := by
  have notice : Scans ("# Code generated by protoc-gen-graphql. DO NOT EDIT." ++ "" ++ "\n") [] :=
    .comment rfl (by decide) (by decide)
  have source : Scans s!"# source: {schema.source}\n" [] := .comment rfl (by decide) printable.source
  have service : Scans s!"# service: {schema.service}\n" [] := .comment rfl (by decide) printable.service
  exact ((notice.append source).append service).append (.commentLine printable.comment)

/-- Imports are listed in a fixed order, each of them once at most. -/
theorem federationImports_sublist (schema : Schema) :
    schema.federationImports.Sublist (["@key"] ++ ["@external"] ++ ["@requires"]) := by
  refine .append (.append ?_ ?_) ?_
  · split <;> simp
  · split <;> simp
  · split <;> simp

theorem federationImports_ne_empty {schema : Schema} {name : String}
    (member : name ∈ schema.federationImports) : name ≠ "" := by
  rintro rfl
  exact absurd ((federationImports_sublist schema).subset member) (by decide)

theorem tokens_linkOutline (imports : List String) :
    (linkOutline imports).tokens =
      .name "extend" :: .name "schema" :: .mark '@' :: .name "link" :: .mark '(' :: .name "url" ::
        .mark ':' :: .text "https://specs.apollo.dev/federation/v2.3" :: .name "import" :: .mark ':' :: .mark '[' ::
        (imports.flatMap ([.text ·]) ++ [.mark ']', .mark ')']) := by
  simp [linkOutline, Definition.tokens, Directive.tokens, group?, group, Argument.tokens, Value.tokens,
    headed, List.map_eq_flatMap]

theorem scans_linkOutline {imports : List String} (named : ∀ name ∈ imports, name ≠ "") :
    Scans ("\nextend schema @link(url: \"https://specs.apollo.dev/federation/v2.3\", import: [" ++
      ", ".intercalate (imports.map quote) ++ "])\n") (linkOutline imports).tokens := by
  have names : Scans (", ".intercalate (imports.map quote)) (imports.flatMap ([.text ·])) :=
    .intercalate fun name member => .quoted (named name member)
  have list := Signs.before (by decide : Signs ": [" [.mark ':', .mark '['])
    (names.append (.signs (by decide : Signs "])\n" [.mark ']', .mark ')'])))
  have second := list.name (by decide : IsName "import".toList)
  have comma := Signs.before (by decide : Signs ", " []) second
  have url := Scans.quoted (by decide : "https://specs.apollo.dev/federation/v2.3" ≠ "")
  have first := Signs.before (by decide : Signs ": " [.mark ':']) (url.append comma.scans)
  have opening := Signs.before (by decide : Signs "(" [.mark '('])
    (first.name (by decide : IsName "url".toList))
  have directive := Signs.before (by decide : Signs " @" [.mark '@'])
    (opening.name (by decide : IsName "link".toList))
  have schema := Signs.before (by decide : Signs " " []) (directive.name (by decide : IsName "schema".toList))
  have whole := Scans.line.append (schema.name (by decide : IsName "extend".toList))
  have quotedUrl : quote "https://specs.apollo.dev/federation/v2.3" =
      "\"https://specs.apollo.dev/federation/v2.3\"" := by decide +kernel
  have literal : "\nextend schema @link(url: \"https://specs.apollo.dev/federation/v2.3\", import: [" =
      "\n" ++ ("extend" ++ (" " ++ ("schema" ++ (" @" ++ ("link" ++ ("(" ++ ("url" ++ (": " ++
        (quote "https://specs.apollo.dev/federation/v2.3" ++ (", " ++ ("import" ++ ": ["))))))))))) := by
    rw [quotedUrl]
    rfl
  rw [literal, tokens_linkOutline]
  simp only [String.append_assoc]
  exact whole

theorem Scans.link (schema : Schema) :
    Scans (link schema)
      ((if schema.federationImports.isEmpty then []
        else [linkOutline schema.federationImports]).flatMap Definition.tokens) := by
  by_cases none : schema.federationImports.isEmpty = true
  · rw [if_pos none, Sdl.link, if_pos none]
    exact .empty
  · rw [if_neg none, List.flatMap_singleton, Sdl.link, if_neg none]
    exact scans_linkOutline fun name member => federationImports_ne_empty member

/-- A root type; it has no comment. -/
theorem Scans.root {head name body : String} {fields : List FieldDefinition}
    (begins : head = "type" ++ (" " ++ name)) (named : IsName name.toList)
    (inside : Scans body (fields.flatMap FieldDefinition.tokens)) :
    Scans ("\n" ++ Sdl.block head body) (Definition.object none name [] fields).tokens := by
  have space := Signs.before (by decide : Signs " " []) ((closes_body inside).name named)
  have whole := Scans.line.append (space.name (by decide : IsName "type".toList))
  rw [Sdl.block, begins]
  simp only [String.append_assoc]
  exact whole

theorem Scans.document {schema : Schema} (printable : Printable schema) :
    Scans (document schema) ((outline schema).flatMap Definition.tokens) := by
  have root (field : Field) (member : field ∈ schema.query ++ schema.mutation) :
      Scans (Sdl.rootFieldLines field) (rootFieldOutline field).tokens :=
    .rootFieldLines (printable.roots field member) (printable.arguments field member)
  have query : Scans ("\n" ++ Sdl.block "type Query" (Sdl.fieldLines Sdl.rootFieldLines schema.query))
      (Definition.object none "Query" []
        (filled placeholderField (schema.query.map rootFieldOutline))).tokens :=
    Scans.root rfl (by decide : IsName "Query".toList)
      (.fieldLines scans_placeholder fun field member => root field (List.mem_append_left _ member))
  have mutation : Scans (if schema.mutation.isEmpty then ""
        else "\n" ++ Sdl.block "type Mutation" (String.join (schema.mutation.map Sdl.rootFieldLines)))
      ((if schema.mutation.isEmpty then []
        else [.object none "Mutation" [] (schema.mutation.map rootFieldOutline)]).flatMap
          Definition.tokens) := by
    split
    · exact .empty
    · rw [List.flatMap_singleton]
      refine Scans.root rfl (by decide : IsName "Mutation".toList) ?_
      rw [List.flatMap_map]
      exact .join fun field member => root field (List.mem_append_right _ member)
  have types : Scans (String.join (schema.types.map Sdl.objectBlock))
      ((schema.types.map objectOutline).flatMap Definition.tokens) := by
    rw [List.flatMap_map]
    exact .join fun type member => .objectBlock (printable.types type member)
  have inputs : Scans (String.join (schema.inputs.map Sdl.inputBlock))
      ((schema.inputs.map inputOutline).flatMap Definition.tokens) := by
    rw [List.flatMap_map]
    exact .join fun type member => .inputBlock (printable.inputs type member)
  have enums : Scans (String.join (schema.enums.map Sdl.enumBlock))
      ((schema.enums.map enumOutline).flatMap Definition.tokens) := by
    rw [List.flatMap_map]
    exact .join fun type member => .enumBlock (printable.enums type member)
  have whole := (Scans.header printable).append ((Scans.link schema).append
    (query.append (mutation.append (types.append (inputs.append enums)))))
  simp only [Sdl.document, outline, String.append_assoc, List.flatMap_append, List.flatMap_cons,
    List.append_assoc, List.nil_append] at whole ⊢
  exact whole

theorem filled_ne_nil {α : Type} (placeholder : α) (fields : List α) : filled placeholder fields ≠ [] := by
  unfold filled
  split
  · simp
  · rename_i nonempty
    simpa using nonempty

theorem complete_outline {schema : Schema} (printable : Printable schema) :
    ∀ definition ∈ outline schema, definition.Complete := by
  intro definition member
  simp only [outline, List.mem_append, List.mem_cons] at member
  rcases member with (((link | rfl | mutation) | object) | input) | enum
  · split at link
    · cases link
    · rw [List.mem_singleton.mp link]
      exact List.cons_ne_nil _ _
  · exact filled_ne_nil _ _
  · split at mutation
    · cases mutation
    · rename_i nonempty
      rw [List.mem_singleton.mp mutation]
      simpa [Definition.Complete] using nonempty
  · obtain ⟨type, _, rfl⟩ := List.mem_map.mp object
    exact filled_ne_nil _ _
  · obtain ⟨type, _, rfl⟩ := List.mem_map.mp input
    exact filled_ne_nil _ _
  · obtain ⟨type, registered, rfl⟩ := List.mem_map.mp enum
    have allowed := printable.enums type registered
    refine ⟨by simpa using allowed.nonempty, fun value listed => ?_⟩
    obtain ⟨option, inside, rfl⟩ := List.mem_map.mp listed
    exact (allowed.options option inside).free

/-- The document of a printable schema is read as the outline of the schema. -/
theorem read?_document {schema : Schema} (printable : Printable schema) :
    read? (document schema) = some (outline schema) := by
  have scanned := Scans.document printable []
  refine read?_of_scan (by simp [outline]) (complete_outline printable) ?_
  simpa [scan] using scanned

end Subgraph.Sdl
