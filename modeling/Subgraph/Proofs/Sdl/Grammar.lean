import Subgraph.Proofs.Sdl.Token

namespace Subgraph.Sdl

/-- Takes a part off the front of the tokens. -/
abbrev Reader (α : Type) :=
  List Token → Option (α × List Token)

/-- The tokens read as the part, whatever follows them, if only it may follow. -/
def ReadsBack {α : Type} (read : Reader α) (follows : Option Token → Prop) (tokens : List Token)
    (part : α) : Prop :=
  ∀ rest, follows rest.head? → read (tokens ++ rest) = some (part, rest)

section Series

variable {α : Type}

/-- Reads parts as long as there are `more`. A reader that takes nothing ends in failure. -/
def series (more : Token → Bool) (read : Reader α) (tokens : List Token) : Option (List α × List Token) :=
  if tokens.head?.any more then do
    let (first, rest) ← read tokens
    if _shorter : rest.length < tokens.length then
      let (others, rest) ← series more read rest
      return (first :: others, rest)
    else none
  else some ([], tokens)
termination_by tokens.length

theorem series_flatMap {more : Token → Bool} {read : Reader α} {follows : Option Token → Prop}
    {print : α → List Token} {parts : List α}
    (starts : ∀ part ∈ parts, ∃ token, (print part).head? = some token ∧ more token = true ∧
      follows (some token))
    (each : ∀ part ∈ parts, ReadsBack read follows (print part) part) {rest : List Token}
    (stop : rest.head?.any more = false) (last : follows rest.head?) :
    series more read (parts.flatMap print ++ rest) = some (parts, rest) := by
  induction parts with
  | nil =>
    rw [series]
    simp [stop]
  | cons part parts ih =>
    obtain ⟨token, first, continues, _⟩ := starts part List.mem_cons_self
    have laterStarts := fun p later => starts p (List.mem_cons_of_mem _ later)
    have others := ih laterStarts fun p later => each p (List.mem_cons_of_mem _ later)
    have next : follows (parts.flatMap print ++ rest).head? := by
      cases parts with
      | nil => exact last
      | cons second parts =>
        obtain ⟨token, first, _, follow⟩ := laterStarts second List.mem_cons_self
        simpa [List.head?_append, first] using follow
    have here := each part List.mem_cons_self _ next
    have nonempty : 0 < (print part).length := List.length_pos_of_ne_nil fun empty => by
      simp [empty] at first
    rw [series, List.flatMap_cons, List.append_assoc, List.head?_append, first, here]
    simp [continues, others, nonempty]

end Series

def readMark (sign : Char) : Reader Unit
  | .mark c :: rest => if c = sign then some ((), rest) else none
  | _ => none

@[simp] theorem readMark_mark (sign : Char) (rest : List Token) :
    readMark sign (.mark sign :: rest) = some ((), rest) :=
  if_pos rfl

def readName : Reader String
  | .name text :: rest => some (text, rest)
  | _ => none

def readString : Reader String
  | .text value :: rest => some (value, rest)
  | _ => none

def readDescription : Reader (Option String)
  | .text value :: rest => some (some value, rest)
  | tokens => some (none, tokens)

/-- Parts between two marks, at least one of them. -/
def readGroup {α : Type} (opening closing : Char) (read : Reader α) : Reader (List α) := fun tokens => do
  let (_, tokens) ← readMark opening tokens
  let (parts, tokens) ← series (· != .mark closing) read tokens
  let (_, tokens) ← readMark closing tokens
  if parts.isEmpty then none else some (parts, tokens)

/-- A group that may be missing. -/
def readGroup? {α : Type} (opening closing : Char) (read : Reader α) : Reader (List α) := fun tokens =>
  if tokens.head? = some (.mark opening) then readGroup opening closing read tokens else some ([], tokens)

def group {α : Type} (opening closing : Char) (print : α → List Token) (parts : List α) : List Token :=
  .mark opening :: parts.flatMap print ++ [.mark closing]

def group? {α : Type} (opening closing : Char) (print : α → List Token) (parts : List α) : List Token :=
  if parts.isEmpty then [] else group opening closing print parts

section Group

variable {α : Type} {opening closing : Char} {read : Reader α} {follows : Option Token → Prop}
  {print : α → List Token} {parts : List α}

theorem readsBack_group (nonempty : parts ≠ [])
    (starts : ∀ part ∈ parts, ∃ token, (print part).head? = some token ∧ token ≠ .mark closing ∧
      follows (some token))
    (each : ∀ part ∈ parts, ReadsBack read follows (print part) part)
    (last : follows (some (.mark closing))) :
    ReadsBack (readGroup opening closing read) (fun _ => True) (group opening closing print parts) parts := by
  intro rest _
  have inner : series (· != .mark closing) read (parts.flatMap print ++ .mark closing :: rest) =
      some (parts, .mark closing :: rest) := by
    refine series_flatMap (fun part member => ?_) each (by simp) (by simpa using last)
    obtain ⟨token, first, other, follow⟩ := starts part member
    exact ⟨token, first, by simpa using other, follow⟩
  simp [readGroup, group, inner, nonempty]

theorem readsBack_group?
    (starts : ∀ part ∈ parts, ∃ token, (print part).head? = some token ∧ token ≠ .mark closing ∧
      follows (some token))
    (each : ∀ part ∈ parts, ReadsBack read follows (print part) part)
    (last : follows (some (.mark closing))) :
    ReadsBack (readGroup? opening closing read) (· ≠ some (.mark opening))
      (group? opening closing print parts) parts := by
  intro rest next
  by_cases empty : parts = []
  · simp [readGroup?, group?, empty, next]
  · have inner : readGroup opening closing read (group opening closing print parts ++ rest) =
        some (parts, rest) := readsBack_group empty starts each last rest trivial
    simpa [readGroup?, group?, empty, group] using inner

end Group

/-- A type reference. What is not null carries at most one mark. -/
inductive TypeRef where
  | named (name : String) (required : Bool)
  | list (element : TypeRef) (required : Bool)
  deriving DecidableEq, Repr

def marked (required : Bool) : List Token :=
  if required then [.mark '!'] else []

def readMarked : List Token → Bool × List Token
  | .mark '!' :: rest => (true, rest)
  | tokens => (false, tokens)

def TypeRef.tokens : TypeRef → List Token
  | named name required => .name name :: marked required
  | list element required => .mark '[' :: element.tokens ++ .mark ']' :: marked required

def readType : Reader TypeRef
  | .name name :: rest =>
    let (required, rest) := readMarked rest
    some (.named name required, rest)
  | .mark '[' :: rest => do
    let (element, rest) ← readType rest
    let (_, rest) ← readMark ']' rest
    let (required, rest) := readMarked rest
    return (.list element required, rest)
  | _ => none

theorem readMarked_marked (required : Bool) {rest : List Token} (next : rest.head? ≠ some (.mark '!')) :
    readMarked (marked required ++ rest) = (required, rest) := by
  cases required with
  | true => rfl
  | false =>
    rw [marked, if_neg (by decide), List.nil_append]
    unfold readMarked
    split
    · exact absurd rfl next
    · rfl

theorem readsBack_type (type : TypeRef) :
    ReadsBack readType (· ≠ some (.mark '!')) type.tokens type := by
  induction type with
  | named name required =>
    intro rest next
    simp [TypeRef.tokens, readType, readMarked_marked required next]
  | list element required ih =>
    intro rest next
    have inner := ih (.mark ']' :: (marked required ++ rest)) (by simp)
    simp [TypeRef.tokens, readType, inner, readMarked_marked required next]

/-- The values that directives take here. -/
inductive Value where
  | text (value : String)
  | list (values : List String)
  deriving DecidableEq, Repr

structure Argument where
  name : String
  value : Value
  deriving DecidableEq, Repr

structure Directive where
  name : String
  arguments : List Argument := []
  deriving DecidableEq, Repr

def Value.tokens : Value → List Token
  | text value => [.text value]
  | list values => .mark '[' :: values.map .text ++ [.mark ']']

def Argument.tokens (argument : Argument) : List Token :=
  .name argument.name :: .mark ':' :: argument.value.tokens

def Directive.tokens (directive : Directive) : List Token :=
  .mark '@' :: .name directive.name :: group? '(' ')' Argument.tokens directive.arguments

def readValue : Reader Value
  | .text value :: rest => some (.text value, rest)
  | .mark '[' :: rest => do
    let (values, rest) ← series (· != .mark ']') readString rest
    let (_, rest) ← readMark ']' rest
    return (.list values, rest)
  | _ => none

def readArgument : Reader Argument := fun tokens => do
  let (name, tokens) ← readName tokens
  let (_, tokens) ← readMark ':' tokens
  let (value, tokens) ← readValue tokens
  return (⟨name, value⟩, tokens)

def readDirective : Reader Directive := fun tokens => do
  let (_, tokens) ← readMark '@' tokens
  let (name, tokens) ← readName tokens
  let (arguments, tokens) ← readGroup? '(' ')' readArgument tokens
  return (⟨name, arguments⟩, tokens)

def readDirectives : Reader (List Directive) :=
  series (· == .mark '@') readDirective

theorem readsBack_value (value : Value) : ReadsBack readValue (fun _ => True) value.tokens value := by
  intro rest _
  cases value with
  | text => rfl
  | list values =>
    have single (text : String) : ReadsBack readString (fun _ => True) [.text text] text :=
      fun _ _ => rfl
    have inner : series (· != .mark ']') readString (values.flatMap ([.text ·]) ++ .mark ']' :: rest) =
        some (values, .mark ']' :: rest) :=
      series_flatMap (fun text _ => ⟨.text text, rfl, by simp, trivial⟩) (fun text _ => single text)
        (by simp) trivial
    simp [Value.tokens, readValue, List.map_eq_flatMap, inner]

theorem readsBack_argument (argument : Argument) :
    ReadsBack readArgument (fun _ => True) argument.tokens argument := by
  intro rest _
  simp [Argument.tokens, readArgument, readName, readsBack_value argument.value rest trivial]

theorem readsBack_directive (directive : Directive) :
    ReadsBack readDirective (· ≠ some (.mark '(')) directive.tokens directive := by
  intro rest next
  have inner : readGroup? '(' ')' readArgument (group? '(' ')' Argument.tokens directive.arguments ++ rest) =
      some (directive.arguments, rest) :=
    readsBack_group? (fun argument _ => ⟨.name argument.name, rfl, by simp, trivial⟩)
      (fun argument _ => readsBack_argument argument) trivial rest next
  simp [Directive.tokens, readDirective, readName, inner]

theorem readsBack_directives (directives : List Directive) :
    ReadsBack readDirectives (fun next => next ≠ some (.mark '(') ∧ next ≠ some (.mark '@'))
      (directives.flatMap Directive.tokens) directives := by
  intro rest next
  refine series_flatMap (fun directive _ => ⟨.mark '@', rfl, by simp, by simp⟩)
    (fun directive _ => readsBack_directive directive) ?_ next.1
  cases first : rest.head? with
  | none => rfl
  | some token => simpa [first] using next.2

/-- A field of an input type, or an argument of a field. -/
structure InputValue where
  description : Option String := none
  name : String
  type : TypeRef
  deriving DecidableEq, Repr

structure FieldDefinition where
  description : Option String := none
  name : String
  arguments : List InputValue := []
  type : TypeRef
  directives : List Directive := []
  deriving DecidableEq, Repr

inductive Definition where
  | extension (directives : List Directive)
  | object (description : Option String) (name : String) (directives : List Directive)
    (fields : List FieldDefinition)
  | input (description : Option String) (name : String) (fields : List InputValue)
  | enum (description : Option String) (name : String) (values : List String)
  deriving DecidableEq, Repr

/-- A description and the name after it. -/
def headed (description : Option String) (name : String) : List Token :=
  description.toList.map .text ++ [.name name]

def InputValue.tokens (value : InputValue) : List Token :=
  headed value.description value.name ++ .mark ':' :: value.type.tokens

def FieldDefinition.tokens (field : FieldDefinition) : List Token :=
  headed field.description field.name ++ (group? '(' ')' InputValue.tokens field.arguments ++
    .mark ':' :: (field.type.tokens ++ field.directives.flatMap Directive.tokens))

def Definition.tokens : Definition → List Token
  | extension directives => headed none "extend" ++ .name "schema" :: directives.flatMap Directive.tokens
  | object description name directives fields =>
    headed description "type" ++ .name name :: (directives.flatMap Directive.tokens ++
      group '\x7b' '\x7d' FieldDefinition.tokens fields)
  | input description name fields =>
    headed description "input" ++ .name name :: group '\x7b' '\x7d' InputValue.tokens fields
  | enum description name values =>
    headed description "enum" ++ .name name :: group '\x7b' '\x7d' ([.name ·]) values

/-- A name with the description before it. -/
def readHeaded : Reader (Option String × String) := fun tokens => do
  let (description, tokens) ← readDescription tokens
  let (name, tokens) ← readName tokens
  return ((description, name), tokens)

def readInputValue : Reader InputValue := fun tokens => do
  let ((description, name), tokens) ← readHeaded tokens
  let (_, tokens) ← readMark ':' tokens
  let (type, tokens) ← readType tokens
  return (⟨description, name, type⟩, tokens)

def readField : Reader FieldDefinition := fun tokens => do
  let ((description, name), tokens) ← readHeaded tokens
  let (arguments, tokens) ← readGroup? '(' ')' readInputValue tokens
  let (_, tokens) ← readMark ':' tokens
  let (type, tokens) ← readType tokens
  let (directives, tokens) ← readDirectives tokens
  return (⟨description, name, arguments, type, directives⟩, tokens)

/-- Names that no enum value can have. -/
def reservedValues : List String :=
  ["true", "false", "null"]

def readEnumValue : Reader String := fun tokens => do
  let (name, tokens) ← readName tokens
  if reservedValues.contains name then none else some (name, tokens)

/-- A definition; its first name tells its kind. -/
def readDefinition : Reader Definition := fun tokens => do
  let ((description, kind), tokens) ← readHeaded tokens
  let (name, tokens) ← readName tokens
  match description, kind with
  | none, "extend" =>
    let (directives, tokens) ← readDirectives tokens
    if name = "schema" ∧ directives ≠ [] then return (.extension directives, tokens) else none
  | description, "type" =>
    let (directives, tokens) ← readDirectives tokens
    let (fields, tokens) ← readGroup '\x7b' '\x7d' readField tokens
    return (.object description name directives fields, tokens)
  | description, "input" =>
    let (fields, tokens) ← readGroup '\x7b' '\x7d' readInputValue tokens
    return (.input description name fields, tokens)
  | description, "enum" =>
    let (values, tokens) ← readGroup '\x7b' '\x7d' readEnumValue tokens
    return (.enum description name values, tokens)
  | _, _ => none

/-- The definitions of a schema document, if the whole of it can be read. -/
def read? (document : String) : Option (List Definition) := do
  let tokens ← scan document.toList
  let (definitions, _) ← series (fun _ => true) readDefinition tokens
  if definitions.isEmpty then none else some definitions

theorem readsBack_headed (description : Option String) (name : String) :
    ReadsBack readHeaded (fun _ => True) (headed description name) (description, name) := by
  intro rest _
  cases description <;> rfl

/-- A part that begins with a description or a name is no continuation of the part before it. -/
theorem head?_headed_append (description : Option String) (name : String) (more : List Token) :
    ∃ token, (headed description name ++ more).head? = some token ∧ ∀ sign, token ≠ .mark sign := by
  cases description with
  | none => exact ⟨.name name, rfl, by simp⟩
  | some text => exact ⟨.text text, rfl, by simp⟩

theorem readsBack_inputValue (value : InputValue) :
    ReadsBack readInputValue (· ≠ some (.mark '!')) value.tokens value := by
  intro rest next
  have type := readsBack_type value.type rest next
  have front := readsBack_headed value.description value.name
    (.mark ':' :: (value.type.tokens ++ rest)) trivial
  simp [InputValue.tokens, readInputValue, front, type]

/-- What may come after a field or a definition. -/
def EndsPart (next : Option Token) : Prop :=
  next ≠ some (.mark '!') ∧ next ≠ some (.mark '(') ∧ next ≠ some (.mark '@')

theorem endsPart_of_plain {token : Token} (plain : ∀ sign, token ≠ .mark sign) : EndsPart (some token) := by
  refine ⟨?_, ?_, ?_⟩ <;> exact fun same => plain _ (Option.some.inj same)

theorem readsBack_field (field : FieldDefinition) : ReadsBack readField EndsPart field.tokens field := by
  rintro rest ⟨unmarked, unopened, undirected⟩
  have directives := readsBack_directives field.directives rest ⟨unopened, undirected⟩
  have type := readsBack_type field.type (field.directives.flatMap Directive.tokens ++ rest) (by
    cases field.directives with
    | nil => exact unmarked
    | cons directive => simp [Directive.tokens])
  have arguments : ReadsBack (readGroup? '(' ')' readInputValue) (· ≠ some (.mark '('))
      (group? '(' ')' InputValue.tokens field.arguments) field.arguments := by
    refine readsBack_group? (fun value _ => ?_) (fun value _ => readsBack_inputValue value) (by simp)
    obtain ⟨token, first, plain⟩ := head?_headed_append value.description value.name _
    exact ⟨token, first, plain _, (endsPart_of_plain plain).1⟩
  simp only [FieldDefinition.tokens, readField, List.append_assoc, List.cons_append]
  rw [readsBack_headed field.description field.name _ trivial]
  simp only [Option.bind_eq_bind, Option.bind_some]
  rw [arguments _ (by simp)]
  simp [type, directives]

theorem readsBack_enumValue {name : String} (free : name ∉ reservedValues) :
    ReadsBack readEnumValue (fun _ => True) [.name name] name := by
  intro rest _
  simp [readEnumValue, readName, free]

/-- The definition has a body, and its enum values are none of the reserved names. -/
def Definition.Complete : Definition → Prop
  | extension directives => directives ≠ []
  | object _ _ _ fields => fields ≠ []
  | input _ _ fields => fields ≠ []
  | enum _ _ values => values ≠ [] ∧ ∀ value ∈ values, value ∉ reservedValues

theorem readsBack_fields {fields : List FieldDefinition} (nonempty : fields ≠ []) :
    ReadsBack (readGroup '\x7b' '\x7d' readField) (fun _ => True)
      (group '\x7b' '\x7d' FieldDefinition.tokens fields) fields := by
  refine readsBack_group nonempty (fun field _ => ?_) (fun field _ => readsBack_field field)
    (by simp [EndsPart])
  obtain ⟨token, first, plain⟩ := head?_headed_append field.description field.name _
  exact ⟨token, first, plain _, endsPart_of_plain plain⟩

theorem readsBack_inputValues {fields : List InputValue} (nonempty : fields ≠ []) :
    ReadsBack (readGroup '\x7b' '\x7d' readInputValue) (fun _ => True)
      (group '\x7b' '\x7d' InputValue.tokens fields) fields := by
  refine readsBack_group nonempty (fun value _ => ?_) (fun value _ => readsBack_inputValue value) (by simp)
  obtain ⟨token, first, plain⟩ := head?_headed_append value.description value.name _
  exact ⟨token, first, plain _, (endsPart_of_plain plain).1⟩

theorem readsBack_definition {definition : Definition} (complete : definition.Complete) :
    ReadsBack readDefinition EndsPart definition.tokens definition := by
  rintro rest ⟨_, unopened, undirected⟩
  cases definition with
  | extension directives =>
    have whole := readsBack_directives directives rest ⟨unopened, undirected⟩
    have nonempty : directives ≠ [] := complete
    simp [Definition.tokens, readDefinition, headed, readHeaded, readDescription, readName, whole, nonempty]
  | object description name directives fields =>
    have body := readsBack_fields complete rest trivial
    have front := readsBack_directives directives
      (group '\x7b' '\x7d' FieldDefinition.tokens fields ++ rest) (by simp [group])
    simp only [Definition.tokens, readDefinition, List.append_assoc, List.cons_append]
    rw [readsBack_headed description "type" _ trivial]
    simp [readName, front, body]
  | input description name fields =>
    have body := readsBack_inputValues complete rest trivial
    simp only [Definition.tokens, readDefinition, List.append_assoc, List.cons_append]
    rw [readsBack_headed description "input" _ trivial]
    simp [readName, body]
  | enum description name values =>
    have body : readGroup '\x7b' '\x7d' readEnumValue (group '\x7b' '\x7d' ([.name ·]) values ++ rest) =
        some (values, rest) :=
      readsBack_group complete.1 (fun value _ => ⟨.name value, rfl, by simp, trivial⟩)
        (fun value member => readsBack_enumValue (complete.2 value member)) trivial rest trivial
    simp only [Definition.tokens, readDefinition, List.append_assoc, List.cons_append]
    rw [readsBack_headed description "enum" _ trivial]
    simp [readName, body]

theorem Definition.head?_tokens (definition : Definition) :
    ∃ token, definition.tokens.head? = some token ∧ ∀ sign, token ≠ .mark sign := by
  cases definition <;> exact head?_headed_append ..

/-- A document is read as definitions whose tokens it has. -/
theorem read?_of_scan {document : String} {definitions : List Definition} (nonempty : definitions ≠ [])
    (complete : ∀ definition ∈ definitions, definition.Complete)
    (scanned : scan document.toList = some (definitions.flatMap Definition.tokens)) :
    read? document = some definitions := by
  have whole : series (fun _ => true) readDefinition (definitions.flatMap Definition.tokens ++ []) =
      some (definitions, []) := by
    refine series_flatMap (fun definition _ => ?_)
      (fun definition member => readsBack_definition (complete definition member)) rfl (by simp [EndsPart])
    obtain ⟨token, first, plain⟩ := definition.head?_tokens
    exact ⟨token, first, rfl, endsPart_of_plain plain⟩
  rw [List.append_nil] at whole
  simp [read?, scanned, whole, nonempty]

end Subgraph.Sdl
